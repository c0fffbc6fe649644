import CallSieve.Proofs.Catalog.Selection
import CallSieve.Proofs.Matcher.Acceptance
import CallSieve.Proofs.Rules.Loading

namespace CallSieve

variable {τ : Type}

/-- A group that a list of tables or a selection from the catalog states. -/
inductive MatcherGroup.IsStated : MatcherGroup τ → Prop
  | ofTables {tables : List MatcherTable} {groups : List (MatcherGroup τ)} {g : MatcherGroup τ}
      (loaded : Rules.load tables = .ok groups) (member : g ∈ groups) : IsStated g
  | ofSelection {items : List String} {groups : List (MatcherGroup τ)} {g : MatcherGroup τ}
      (resolved : Selection.resolve items = .ok groups) (member : g ∈ groups) : IsStated g

/-- The clause adds no test. -/
def Clause.isPlain (c : Clause τ) : Bool :=
  c.addedTypes.all (·.isPlain) && c.addedNames.all (·.isPlain) && c.addedParameters.all (·.isPlain)

namespace Clause

theorem isPlain_ofTypes (names : List String) : (ofTypes names : Clause τ).isPlain = true := by
  simp [ofTypes, isPlain, TypeCriterion.isPlain]

theorem isPlain_ofSubtypes (names : List String) : (ofSubtypes names : Clause τ).isPlain = true := by
  simp [ofSubtypes, isPlain, TypeCriterion.isPlain]

theorem isPlain_withParameters (names : List String) : (withParameters names : Clause τ).isPlain = true := by
  cases names <;> simp [withParameters, withParameterCriteria, withoutParameters, isPlain,
    ParametersCriterion.isPlain, TypeCriterion.isPlain]

theorem isPlain_startingWithParameters (names : List String) :
    (startingWithParameters names : Clause τ).isPlain = true := by
  simp [startingWithParameters, ParametersCriterion.startingWithNames, isPlain, ParametersCriterion.isPlain,
    TypeCriterion.isPlain]

end Clause

theorem Matcher.isPlain_collected {clauses : List (Clause τ)} (plain : ∀ c ∈ clauses, c.isPlain = true) :
    (Matcher.collected clauses).isPlain = true := by
  simp only [Clause.isPlain, Bool.and_eq_true] at plain
  simp only [isPlain, collected, List.all_flatMap, Bool.and_eq_true, List.all_eq_true]
  refine ⟨⟨?_, ?_⟩, ?_⟩
  · exact fun c member => List.all_eq_true.mp (plain c member).1.1
  · exact fun c member => List.all_eq_true.mp (plain c member).1.2
  · exact fun c member => List.all_eq_true.mp (plain c member).2

namespace MatcherTable

theorem mem_clauseIf {isSet : Bool} {c d : Clause τ} : c ∈ clauseIf isSet d ↔ isSet = true ∧ c = d := by
  cases isSet <;> simp [clauseIf]

theorem exists_withParameters_of_mem {signatures : Option (List (List String))} {c : Clause τ}
    (member : c ∈ signatureClauses signatures) : ∃ names, c = .withParameters names := by
  cases signatures with
  | none => cases member
  | some signatures =>
    cases signatures with
    | nil => exact ⟨[], List.mem_singleton.mp member⟩
    | cons first rest =>
      obtain ⟨names, -, rfl⟩ := List.mem_map.mp member
      exact ⟨names, rfl⟩

/-- No clause of a table adds a test. -/
theorem isPlain_of_mem_clauses {t : MatcherTable} {c : Clause τ} (member : c ∈ t.clauses) : c.isPlain = true := by
  simp only [clauses, List.mem_append, mem_clauseIf, Option.mem_toList, Option.map_eq_some_iff,
    List.mem_map] at member
  rcases member with ((((((((⟨-, rfl⟩ | ⟨-, rfl⟩) | ⟨-, rfl⟩) | ⟨-, rfl⟩) | ⟨start, -, rfl⟩) | ⟨-, rfl⟩) | ⟨-, rfl⟩) |
    signature) | ⟨names, -, rfl⟩) | ⟨-, rfl⟩
  · exact Clause.isPlain_ofTypes t.types
  · exact Clause.isPlain_ofSubtypes t.subtypes
  · rfl
  · rfl
  · rfl
  · rfl
  · rfl
  · obtain ⟨names, rfl⟩ := exists_withParameters_of_mem signature
    exact Clause.isPlain_withParameters names
  · exact Clause.isPlain_startingWithParameters names
  · rfl

theorem isPlain_of_matcher {t : MatcherTable} {m : Matcher τ} (built : t.matcher = .ok m) : m.isPlain = true := by
  rw [Matcher.eq_collected_of_ofClauses built]
  exact Matcher.isPlain_collected fun c member => isPlain_of_mem_clauses member

end MatcherTable

/-- Every entry of the catalog can be selected. -/
theorem Entry.isStated_group (e : Entry) : (e.group : MatcherGroup τ).IsStated :=
  .ofSelection (Selection.resolve_eq [e.code])
    (Selection.mem_groups_iff.mpr ⟨_, List.mem_singleton_self _, e, .byCode, e.buildGroup_eq⟩)

theorem Entry.isPlain_matchers (e : Entry) : (e.matchers : Matchers τ).isPlain = true := by
  cases e <;> rfl

theorem MatcherGroup.IsStated.isPlain {g : MatcherGroup τ} (stated : g.IsStated) : g.matchers.isPlain = true := by
  cases stated with
  | ofTables loaded member =>
    refine List.all_eq_true.mpr fun m inside => ?_
    obtain ⟨t, -, -, built⟩ := Rules.matcher_of_load loaded member inside
    exact MatcherTable.isPlain_of_matcher built
  | ofSelection resolved member =>
    obtain rfl := Except.ok.inj ((Selection.resolve_eq _).symm.trans resolved)
    obtain ⟨e, -, rfl⟩ := List.mem_map.mp member
    exact e.isPlain_matchers

end CallSieve
