import CallSieve.Proofs.Report.Order
import CallSieve.Proofs.Text.Bytes

namespace CallSieve

/-- What is reported of a site that the group accepts. -/
def MatcherGroup.finding {τ : Type} (g : MatcherGroup τ) (file : String) (line : UInt32) : Finding :=
  ⟨g.id.text, g.severity, file, line, g.message⟩

theorem MatcherGroup.findings_eq_map (g : MatcherGroup TypeRef) (s : Snapshot) (file : String) (mode : Mode) :
    g.findings s file mode =
      (s.sites.filter (mode.accepts g.matchers s.table)).map fun x => g.finding file x.line := by
  rw [findings, Snapshot.matchingLines, Snapshot.matchingSites, List.map_map]
  rfl

theorem MatcherGroup.eq_finding_of_mem_findings {g : MatcherGroup TypeRef} {s : Snapshot} {file : String} {mode : Mode}
    {found : Finding} (member : found ∈ g.findings s file mode) : found = g.finding file found.line := by
  obtain ⟨line, -, rfl⟩ := List.mem_map.mp member
  rfl

namespace Snapshot

/-- Each group with each site that it accepts, in the order of groups and then of sites. -/
def acceptedPairs (s : Snapshot) (groups : List (MatcherGroup TypeRef)) (mode : Mode) :
    List (MatcherGroup TypeRef × Site) :=
  (groups.product s.sites).filter fun (g, x) => mode.accepts g.matchers s.table x

theorem flatMap_findings (s : Snapshot) (file : String) (groups : List (MatcherGroup TypeRef)) (mode : Mode) :
    groups.flatMap (·.findings s file mode) =
      (s.acceptedPairs groups mode).map fun (g, x) => g.finding file x.line := by
  simp only [MatcherGroup.findings_eq_map, acceptedPairs, List.product, List.filter_flatMap, List.filter_map,
    List.map_flatMap, List.map_map]
  rfl

/-- The findings of a report are those of the accepted pairs, one for each pair,
    sorted by line and then by the bytes of the id. Findings of one line and one
    id stay in the order of the pairs. The number of sites is a word of 64 bits,
    which counts as many sites as a program can hold. -/
theorem findings_report (s : Snapshot) (file : String) (groups : List (MatcherGroup TypeRef)) (mode : Mode) :
    (s.report file groups mode).findings.Perm
      ((s.acceptedPairs groups mode).map fun (g, x) => g.finding file x.line) ∧
    (s.report file groups mode).findings.Pairwise (fun a b =>
      a.line < b.line ∨ a.line = b.line ∧ Text.bytes a.id ≤ Text.bytes b.id) ∧
    (∀ line id, (s.report file groups mode).findings.filter (Finding.isAt line id) =
      ((s.acceptedPairs groups mode).map fun (g, x) => g.finding file x.line).filter (Finding.isAt line id)) ∧
    (s.report file groups mode).sitesChecked = UInt64.ofNat s.sites.length ∧
    (s.sites.length < UInt64.size → (s.report file groups mode).sitesChecked.toNat = s.sites.length) := by
  simp only [report, flatMap_findings]
  refine ⟨List.mergeSort_perm _ _, ?_, fun line id => Finding.filter_mergeSort _ line id, trivial, ?_⟩
  · simp only [Text.bytes_le_iff, ← Finding.le_iff]
    exact Finding.pairwise_mergeSort _
  · intro fits
    exact UInt64.toNat_ofNat_of_lt fits

end Snapshot

end CallSieve
