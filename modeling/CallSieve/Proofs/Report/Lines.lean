import CallSieve.Proofs.Report.Findings
import CallSieve.Proofs.Rules.Outcome
import CallSieve.Proofs.Text.Lines
import CallSieve.Report.Format
import CallSieve.Snapshot.File

namespace CallSieve

open Text (IsLines)

namespace Finding

variable {f : Finding}

/-- What is printed in front of the message. -/
def head (f : Finding) : String :=
  f.file ++ ":" ++ toString f.line ++ ": " ++ f.severity.render ++ " [" ++ f.id ++ "] "

theorem render_eq (f : Finding) : f.render = f.head ++ f.message := rfl

/-- The lines of a finding: those of its message, the first one behind the head. -/
def lines (f : Finding) : List String :=
  match Text.pieces '\n' f.message with
  | [] => [f.head]
  | first :: more => (f.head ++ first) :: more

theorem pieces_render (inline : '\n' ∉ f.head.toList) : Text.pieces '\n' f.render = f.lines := by
  obtain ⟨first, more, shape, joined⟩ := Text.cut_append_left inline f.message.toList
  simp [lines, Text.pieces, render_eq, shape, joined, String.ofList_append]

theorem length_lines (f : Finding) : f.lines.length = f.message.toList.count '\n' + 1 := by
  have number := Text.length_cut '\n' f.message.toList
  cases shape : Text.cut '\n' f.message.toList with
  | nil => simp [shape] at number
  | cons first more => simpa [lines, Text.pieces, shape] using number

/-- Findings have one line each, and one more for each newline in a message. -/
theorem length_flatMap_lines (fs : List Finding) :
    (fs.flatMap lines).length = fs.length + (fs.map fun f => f.message.toList.count '\n').sum := by
  induction fs with
  | nil => rfl
  | cons f fs ih =>
    rw [List.flatMap_cons, List.length_append, length_lines, ih, List.map_cons, List.sum_cons, List.length_cons]
    omega

theorem length_flatMap_lines_eq_iff {fs : List Finding} :
    (fs.flatMap lines).length = fs.length ↔ ∀ f ∈ fs, '\n' ∉ f.message.toList := by
  rw [length_flatMap_lines, Nat.add_eq_left, List.sum_eq_zero_iff]
  simp [List.count_eq_zero]

theorem newline_notMem_render_iff (inline : '\n' ∉ f.head.toList) :
    '\n' ∉ f.render.toList ↔ '\n' ∉ f.message.toList := by
  simp [render_eq, inline]

end Finding

namespace Report

variable {r : Report}

/-- The compact form is made of one line for each finding, in their order. -/
def IsOnePerLine (r : Report) : Prop := IsLines (r.print .compact) (r.findings.map Finding.render)

theorem isLines_print_compact (inline : ∀ f ∈ r.findings, '\n' ∉ f.head.toList) :
    IsLines (r.print .compact) (r.findings.flatMap Finding.lines) := by
  refine Text.isLines_join fun f member => ?_
  rw [← Finding.pieces_render (inline f member)]
  exact Text.isLines_pieces f.render

theorem isOnePerLine_iff (inline : ∀ f ∈ r.findings, '\n' ∉ f.head.toList) :
    r.IsOnePerLine ↔ ∀ f ∈ r.findings, '\n' ∉ f.message.toList := by
  constructor
  · intro onePerLine f member
    exact (Finding.newline_notMem_render_iff (inline f member)).mp (onePerLine.inline _ (List.mem_map_of_mem member))
  · intro short
    refine ⟨by rw [List.map_map]; rfl, fun line member => ?_⟩
    obtain ⟨f, found, rfl⟩ := List.mem_map.mp member
    exact (Finding.newline_notMem_render_iff (inline f found)).mpr (short f found)

end Report

theorem MatcherId.newline_notMem_text (id : MatcherId) : '\n' ∉ id.text.toList := by
  intro member
  have legal := List.all_eq_true.mp id.legal _ member
  exact absurd legal (by decide)

theorem Severity.newline_notMem_render (s : Severity) : '\n' ∉ s.render.toList := by
  cases s <;> decide

theorem newline_notMem_repr (n : Nat) : '\n' ∉ n.repr.toList := by
  rw [Nat.toList_repr]
  intro member
  have digit := Nat.isDigit_of_mem_toDigits (by decide) (by decide) member
  exact absurd digit (by decide)

namespace MatcherGroup

theorem newline_notMem_head (g : MatcherGroup TypeRef) {source : String} (inline : '\n' ∉ source.toList)
    (line : UInt32) : '\n' ∉ (g.finding source line).head.toList := by
  have number : '\n' ∉ (toString line).toList := newline_notMem_repr line.toNat
  simp [Finding.head, finding, inline, number, g.id.newline_notMem_text, g.severity.newline_notMem_render]

/-- The default message has no newline in it, so one that has comes from a table. -/
theorem newline_notMem_message_iff {g : MatcherGroup TypeRef} {tables : List MatcherTable}
    (unites : Rules.Unites g tables) :
    '\n' ∉ g.message.toList ↔ ∀ text, Rules.Sets (·.message) tables g.id.text text → '\n' ∉ text.toList := by
  constructor
  · intro short text isSet
    rwa [← unites.message text isSet]
  · intro short
    by_cases unset : ∀ text, ¬ Rules.Sets (·.message) tables g.id.text text
    · simp [unites.messageUnset unset, g.id.newline_notMem_text]
    · push Not at unset
      obtain ⟨text, isSet⟩ := unset
      rw [unites.message text isSet]
      exact short text isSet

end MatcherGroup

theorem Snapshot.exists_group_of_mem_findings {s : Snapshot} {source : String} {groups : List (MatcherGroup TypeRef)}
    {mode : Mode} {f : Finding} (member : f ∈ (s.report source groups mode).findings) :
    ∃ g ∈ groups, f = g.finding source f.line := by
  obtain ⟨g, isGroup, found⟩ := List.mem_flatMap.mp (List.mem_mergeSort.mp member)
  exact ⟨g, isGroup, MatcherGroup.eq_finding_of_mem_findings found⟩

/-- No table of an id with findings in the report sets a message with a newline. -/
def Report.HasShortMessages (r : Report) (tables : List MatcherTable) : Prop :=
  ∀ f ∈ r.findings, ∀ text, Rules.Sets (·.message) tables f.id text → '\n' ∉ text.toList

theorem Report.hasShortMessages_iff {tables : List MatcherTable} {groups : List (MatcherGroup TypeRef)}
    (unites : ∀ g ∈ groups, Rules.Unites g tables) {s : Snapshot} {source : String} {mode : Mode} :
    (s.report source groups mode).HasShortMessages tables ↔
      ∀ f ∈ (s.report source groups mode).findings, '\n' ∉ f.message.toList := by
  refine forall₂_congr fun f member => ?_
  obtain ⟨g, isGroup, same⟩ := Snapshot.exists_group_of_mem_findings member
  rw [same]
  exact (MatcherGroup.newline_notMem_message_iff (unites g isGroup)).symm

/-- What the compact form of a report is made of, for rules that load and a file with
    no newline in its name: the lines of each finding, which are those of its message,
    the first one behind the head. There are as many lines as findings, and then each
    finding is a line, exactly if no table of an id with findings sets a message with a
    newline in it. -/
theorem Snapshot.isLines_compact {tables : List MatcherTable} {groups : List (MatcherGroup TypeRef)}
    (loaded : Rules.load tables = .ok groups) {source : String} (inline : '\n' ∉ source.toList) (s : Snapshot)
    (mode : Mode) :
    IsLines ((s.report source groups mode).print .compact)
      ((s.report source groups mode).findings.flatMap Finding.lines) ∧
    (∀ lines, IsLines ((s.report source groups mode).print .compact) lines →
      (lines.length = (s.report source groups mode).findings.length ↔
        (s.report source groups mode).HasShortMessages tables)) ∧
    ((s.report source groups mode).IsOnePerLine ↔ (s.report source groups mode).HasShortMessages tables) := by
  have heads : ∀ f ∈ (s.report source groups mode).findings, '\n' ∉ f.head.toList := by
    intro f member
    obtain ⟨g, -, same⟩ := exists_group_of_mem_findings member
    rw [same]
    exact g.newline_notMem_head inline f.line
  have made := Report.isLines_print_compact heads
  have short : (s.report source groups mode).HasShortMessages tables ↔
      ∀ f ∈ (s.report source groups mode).findings, '\n' ∉ f.message.toList :=
    Report.hasShortMessages_iff fun _ member => Rules.unites_of_load loaded member
  refine ⟨made, ?_, ?_⟩
  · intro lines isLines
    rw [isLines.unique made, Finding.length_flatMap_lines_eq_iff, short]
  · rw [Report.isOnePerLine_iff heads, short]

namespace Snapshot

def twoLineRule : MatcherTable where
  id := "two-lines"
  anyType := true
  anyName := true
  anyParameters := true
  message := some "First part.\nSecond part."

def oneCall : SnapshotFile where
  types := [⟨"app.Job", .classKind, []⟩]
  methods := [⟨"run", "app.Job", some "run", false, []⟩]
  sites := [⟨3, .invocation, some "run", none, none⟩]

theorem findings_oneCall :
    ∃ groups s, Rules.load [twoLineRule] = .ok groups ∧ oneCall.load = .ok s ∧ ∀ mode,
      (s.report "snap.toml" groups mode).findings =
        [⟨"two-lines", .warning, "snap.toml", 3, "First part.\nSecond part."⟩] := by
  refine ⟨_, _, rfl, rfl, fun mode => ?_⟩
  cases mode <;> cbv

theorem isLines_compact_oneCall :
    ∃ groups s, Rules.load [twoLineRule] = .ok groups ∧ '\n' ∉ "snap.toml".toList ∧ oneCall.load = .ok s ∧ ∀ mode,
      IsLines ((s.report "snap.toml" groups mode).print .compact)
        ["snap.toml:3: warning [two-lines] First part.", "Second part."] := by
  obtain ⟨groups, s, loaded, read, findings⟩ := findings_oneCall
  have inline : '\n' ∉ "snap.toml".toList := by decide
  refine ⟨groups, s, loaded, inline, read, fun mode => ?_⟩
  obtain ⟨made, -, -⟩ := isLines_compact loaded inline s mode
  rw [findings mode] at made
  have twoLines : [⟨"two-lines", .warning, "snap.toml", 3, "First part.\nSecond part."⟩].flatMap Finding.lines =
      ["snap.toml:3: warning [two-lines] First part.", "Second part."] := by cbv
  rwa [twoLines] at made

theorem not_isOnePerLine_oneCall :
    ∃ groups s, Rules.load [twoLineRule] = .ok groups ∧ '\n' ∉ "snap.toml".toList ∧ oneCall.load = .ok s ∧ ∀ mode,
      ¬ (s.report "snap.toml" groups mode).IsOnePerLine := by
  obtain ⟨groups, s, loaded, read, findings⟩ := findings_oneCall
  refine ⟨groups, s, loaded, by decide, read, fun mode onePerLine => ?_⟩
  have inline := onePerLine.inline
  rw [findings mode] at inline
  exact absurd (inline _ List.mem_cons_self) (by decide)

end Snapshot

end CallSieve
