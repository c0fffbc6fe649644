import CallSieve.Proofs.Report.Order
import CallSieve.Proofs.TypeTable.History

namespace CallSieve

namespace Report

/-- No finding is on a line before that of a finding before it. -/
def InLineOrder (r : Report) : Prop := r.findings.Pairwise fun a b => a.line ≤ b.line

/-- No finding of the second report is on a line before that of a finding of the first. -/
def Precedes (r other : Report) : Prop := ∀ a ∈ r.findings, ∀ b ∈ other.findings, a.line ≤ b.line

theorem inLineOrder_empty : empty.InLineOrder := List.Pairwise.nil

/-- One report after another is in order if both are and the first precedes the second. -/
theorem inLineOrder_extend_iff {r other : Report} :
    (r.extend other).InLineOrder ↔ r.InLineOrder ∧ other.InLineOrder ∧ r.Precedes other :=
  List.pairwise_append

end Report

theorem Snapshot.inLineOrder_report (s : Snapshot) (file : String) (groups : List (MatcherGroup TypeRef))
    (mode : Mode) :
    (s.report file groups mode).InLineOrder := by
  refine (Finding.pairwise_mergeSort _).imp fun {a b} le => ?_
  rcases Finding.le_iff.mp le with before | ⟨same, -⟩
  · exact UInt32.le_of_lt before
  · exact UInt32.le_of_eq same

/-- How a report is made, from those of snapshots and empty ones. -/
inductive Merge where
  | nothing
  | ofSnapshot (s : Snapshot) (file : String) (groups : List (MatcherGroup TypeRef)) (mode : Mode)
  | extended (first second : Merge)

namespace Merge

def report : Merge → Report
  | nothing => .empty
  | ofSnapshot s file groups mode => s.report file groups mode
  | extended first second => first.report.extend second.report

/-- The reports of the snapshots, the first one first. -/
def parts : Merge → List Report
  | nothing => []
  | ofSnapshot s file groups mode => [s.report file groups mode]
  | extended first second => first.parts ++ second.parts

theorem findings_eq_flatMap (m : Merge) : m.report.findings = m.parts.flatMap (·.findings) := by
  induction m with
  | nothing => rfl
  | ofSnapshot => simp [report, parts]
  | extended first second ihFirst ihSecond => simp [report, parts, Report.extend, ihFirst, ihSecond]

theorem sitesChecked_eq_sum (m : Merge) : m.report.sitesChecked = (m.parts.map (·.sitesChecked)).sum := by
  induction m with
  | nothing => rfl
  | ofSnapshot => simp [report, parts]
  | extended first second ihFirst ihSecond => simp [report, parts, Report.extend, ihFirst, ihSecond]

theorem inLineOrder_of_mem_parts {m : Merge} {part : Report} (member : part ∈ m.parts) : part.InLineOrder := by
  induction m with
  | nothing => cases member
  | ofSnapshot s file groups mode =>
    obtain rfl := List.mem_singleton.mp member
    exact s.inLineOrder_report file groups mode
  | extended first second ihFirst ihSecond => exact (List.mem_append.mp member).elim ihFirst ihSecond

theorem precedes_report_iff {first second : Merge} :
    first.report.Precedes second.report ↔ ∀ a ∈ first.parts, ∀ b ∈ second.parts, a.Precedes b := by
  simp only [Report.Precedes, findings_eq_flatMap, List.mem_flatMap]
  constructor
  · intro precedes a aPart b bPart f fMember g gMember
    exact precedes f ⟨a, aPart, fMember⟩ g ⟨b, bPart, gMember⟩
  · rintro precedes f ⟨a, aPart, fMember⟩ g ⟨b, bPart, gMember⟩
    exact precedes a aPart b bPart f fMember g gMember

theorem inLineOrder_report_iff (m : Merge) : m.report.InLineOrder ↔ m.parts.Pairwise Report.Precedes := by
  induction m with
  | nothing => exact iff_of_true Report.inLineOrder_empty .nil
  | ofSnapshot s file groups mode =>
    exact iff_of_true (s.inLineOrder_report file groups mode) (List.pairwise_singleton _ _)
  | extended first second ihFirst ihSecond =>
    rw [report, parts, Report.inLineOrder_extend_iff, List.pairwise_append, ihFirst, ihSecond, precedes_report_iff]

/-- A merged report has the findings of its parts one part after the other, each in
    the order of its lines. So it is itself in the order of lines exactly if no part
    has a line before one of an earlier part. -/
theorem inLineOrder_merged_iff (m : Merge) :
    m.report.findings = m.parts.flatMap (·.findings) ∧
    m.report.sitesChecked = (m.parts.map (·.sitesChecked)).sum ∧
    (∀ part ∈ m.parts, part.InLineOrder) ∧
    (m.report.InLineOrder ↔ m.parts.Pairwise Report.Precedes) :=
  ⟨m.findings_eq_flatMap, m.sitesChecked_eq_sum, fun _ => inLineOrder_of_mem_parts, m.inLineOrder_report_iff⟩

def callOn (line : UInt32) : Snapshot where
  table := .ofDeclarations [.ofClass "app.Job" [], .method ⟨"app.Job", "run", []⟩]
  sites := [⟨line, .invocation, some ⟨0⟩, none, none⟩]

def anyCall : MatcherGroup TypeRef := ⟨⟨"any-call", rfl, rfl⟩, .single ⟨[.any], [.any], [.any]⟩, "A call.", .warning⟩

/-- A report on a late line that is extended by one on an early line. -/
def lateThenEarly : Merge :=
  .extended (.ofSnapshot (callOn 9) "late.toml" [anyCall] .tree) (.ofSnapshot (callOn 2) "early.toml" [anyCall] .tree)

theorem not_inLineOrder_lateThenEarly :
    lateThenEarly.report.findings.map (·.line) = [9, 2] ∧ ¬ lateThenEarly.report.InLineOrder := by
  have lines : lateThenEarly.report.findings.map (·.line) = [9, 2] := by cbv
  refine ⟨lines, fun inOrder => ?_⟩
  have sorted : (lateThenEarly.report.findings.map (·.line)).Pairwise (· ≤ ·) := List.pairwise_map.mpr inOrder
  rw [lines] at sorted
  exact absurd sorted (by decide)

end Merge

end CallSieve
