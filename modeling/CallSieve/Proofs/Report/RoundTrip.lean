import CallSieve.Proofs.Json.Documents
import CallSieve.Proofs.Rules.Loading
import CallSieve.Report.Format

namespace CallSieve

open Json (Value)
open Json.Value (IsLegible)

theorem Severity.ofJson?_render (s : Severity) : Severity.ofJson? (.string (some s.render)) = some s :=
  Severity.parse?_render s

namespace Finding

def locationJson (f : Finding) : Value :=
  .object [(some "file", .string f.file), (some "line", .natural f.line.toNat)]

theorem fields?_toJson (f : Finding) : f.toJson.fields? ["id", "severity", "location", "message"] =
    some [.string f.id, .string f.severity.render, f.locationJson, .string f.message] := rfl

theorem fields?_locationJson (f : Finding) :
    f.locationJson.fields? ["file", "line"] = some [.string f.file, .natural f.line.toNat] := rfl

theorem ofJson?_toJson (f : Finding) : Finding.ofJson? f.toJson = some f := by
  have line : (Value.natural f.line.toNat).asNatural? UInt32.size = some f.line.toNat := if_pos f.line.toNat_lt
  rw [ofJson?, fields?_toJson]
  simp only [Option.bind_eq_bind, Option.bind_some]
  rw [fields?_locationJson, Option.bind_some]
  simp only [Value.asString?, Severity.ofJson?_render, line, Option.bind_some, UInt32.ofNat_toNat]

theorem isLegible_toJson (f : Finding) : IsLegible f.toJson := by
  have location : IsLegible f.locationJson := by
    refine .object fun m member => ?_
    simp only [List.mem_cons, List.not_mem_nil, or_false] at member
    rcases member with rfl | rfl
    · exact .string _
    · exact .natural _
  refine .object fun m member => ?_
  simp only [List.mem_cons, List.not_mem_nil, or_false] at member
  rcases member with rfl | rfl | rfl | rfl
  · exact .string _
  · exact .string _
  · exact location
  · exact .string _

end Finding

namespace Report

theorem fields?_toJson (r : Report) : r.toJson.fields? ["findings", "sites_checked"] =
    some [.array (r.findings.map (·.toJson)), .natural r.sitesChecked.toNat] := rfl

theorem mapM_ofJson?_toJson (fs : List Finding) : (fs.map (·.toJson)).mapM Finding.ofJson? = some fs := by
  induction fs with
  | nil => rfl
  | cons f rest ih => simp [List.mapM_cons, Finding.ofJson?_toJson, ih]

theorem ofJson?_toJson (r : Report) : Report.ofJson? r.toJson = some r := by
  have count : (Value.natural r.sitesChecked.toNat).asNatural? UInt64.size = some r.sitesChecked.toNat :=
    if_pos r.sitesChecked.toNat_lt
  rw [ofJson?, fields?_toJson]
  simp only [Option.bind_eq_bind, Option.bind_some]
  rw [mapM_ofJson?_toJson, Option.bind_some, count, Option.bind_some, UInt64.ofNat_toNat]

theorem isLegible_toJson (r : Report) : IsLegible r.toJson := by
  refine .object fun m member => ?_
  simp only [List.mem_cons, List.not_mem_nil, or_false] at member
  rcases member with rfl | rfl
  · refine .array fun v member => ?_
    obtain ⟨f, -, rfl⟩ := List.mem_map.mp member
    exact f.isLegible_toJson
  · exact .natural _

theorem ofJsonText?_append (r : Report) {space : String} (isSpaces : ∀ c ∈ space.toList, Json.isSpace c = true) :
    Report.ofJsonText? (r.toJsonText ++ space) = some r := by
  rw [ofJsonText?, toJsonText, Json.parse?_pretty r.isLegible_toJson isSpaces]
  exact r.ofJson?_toJson

/-- Any report is read back from its text, and from what is printed of it, which
    ends with a line break. -/
theorem ofJsonText?_print (r : Report) :
    Report.ofJsonText? r.toJsonText = some r ∧ Report.ofJsonText? (r.print .json) = some r := by
  have nothing : ∀ c ∈ "".toList, Json.isSpace c = true := by simp
  have lineBreak : ∀ c ∈ "\n".toList, Json.isSpace c = true := by simp [Json.isSpace]
  refine ⟨?_, r.ofJsonText?_append lineBreak⟩
  simpa using r.ofJsonText?_append nothing

end Report

end CallSieve
