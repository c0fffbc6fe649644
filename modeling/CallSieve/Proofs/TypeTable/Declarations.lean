import CallSieve.TypeTable
import Mathlib

namespace CallSieve

/-- Under distinct keys a search by key finds exactly the member of that key. -/
theorem find?_key_eq_some_iff {α : Type} {key : α → String} {l : List α} (distinct : (l.map key).Nodup) {k : String}
    {a : α} : l.find? (key · == k) = some a ↔ a ∈ l ∧ key a = k := by
  constructor
  · intro found
    exact ⟨List.mem_of_find?_eq_some found, by simpa using List.find?_some found⟩
  · rintro ⟨member, rfl⟩
    cases found : l.find? (key · == key a) with
    | none => exact absurd (List.find?_eq_none.mp found a member) (by simp)
    | some b =>
      have same : key b = key a := by simpa using List.find?_some found
      rw [List.inj_on_of_nodup_map distinct (List.mem_of_find?_eq_some found) member same]

/-- In a list that is numbered from a start, a key is looked up by its first place. -/
theorem lookup_map_zipIdx {α β : Type} (key : α → String) (value : Nat → β) (l : List α) (start : Nat) (k : String) :
    ((l.zipIdx start).map fun (a, i) => (key a, value i)).lookup k =
      (l.findIdx? (key · == k)).map fun i => value (start + i) := by
  induction l generalizing start with
  | nil => rfl
  | cons a rest ih =>
    rw [List.zipIdx_cons, List.map_cons, List.lookup_cons, List.findIdx?_cons]
    by_cases same : key a = k
    · simp [same]
    · have other : (k == key a) = false := beq_false_of_ne fun h => same h.symm
      have shift (i : Nat) : start + 1 + i = start + (i + 1) := by omega
      simp [same, other, ih (start + 1), shift, Function.comp_def]

namespace TypeTable

theorem find?_set {types : List TypeDecl} {d : TypeDecl} {i : Nat} (place : types.findIdx? (·.name == d.name) = some i)
    (n : String) :
    (types.set i d).find? (·.name == n) = if d.name = n then some d else types.find? (·.name == n) := by
  induction types generalizing i with
  | nil => simp at place
  | cons e rest ih =>
    rw [List.findIdx?_cons] at place
    by_cases here : e.name = d.name
    · obtain rfl : 0 = i := by simpa [here] using place
      by_cases same : d.name = n
      · simp [same]
      · simp [same, here]
    · obtain ⟨j, later, rfl⟩ : ∃ j, rest.findIdx? (·.name == d.name) = some j ∧ j + 1 = i := by
        simpa [here] using place
      rw [List.set_cons_succ, List.find?_cons, List.find?_cons, ih later]
      by_cases same : d.name = n
      · have other : (e.name == n) = false := by simpa [← same] using here
        simp [same, other]
      · simp [same]

/-- A declaration changes what its own name stands for, and nothing else. -/
theorem find?_declare (t : TypeTable) (d : TypeDecl) (n : String) :
    (t.declare d).find? n = if d.name = n then some d else t.find? n := by
  cases place : t.indexOf? d.name with
  | some i =>
    simp only [declare, place, find?]
    exact find?_set place n
  | none =>
    simp only [declare, place, find?, List.find?_append]
    by_cases same : d.name = n
    · have absent : t.types.find? (·.name == n) = none := by
        rw [← same]
        simpa [indexOf?, List.findIdx?_eq_none_iff, List.find?_eq_none] using place
      simp [same, absent]
    · have other : (d.name == n) = false := by simpa using same
      simp [same, other]

theorem methods_declare (t : TypeTable) (d : TypeDecl) : (t.declare d).methods = t.methods := by
  rw [declare]
  split <;> rfl

theorem find?_foldl_declare (ds : List TypeDecl) (t : TypeTable) (n : String) :
    (ds.foldl declare t).find? n = (ds.reverse.find? (·.name == n)).or (t.find? n) := by
  induction ds generalizing t with
  | nil => simp
  | cons d rest ih =>
    rw [List.foldl_cons, ih, find?_declare, List.reverse_cons, List.find?_append, Option.or_assoc]
    by_cases same : d.name = n
    · simp [same]
    · have other : (d.name == n) = false := by simpa using same
      simp [same, other]

theorem contains_foldl_declare (ds : List TypeDecl) {t : TypeTable} {n : String} (declared : t.contains n = true) :
    (ds.foldl declare t).contains n = true := by
  rw [contains, find?_foldl_declare, Option.isSome_or, Bool.or_eq_true]
  exact .inr declared

theorem methods_foldl_declare (ds : List TypeDecl) (t : TypeTable) : (ds.foldl declare t).methods = t.methods := by
  induction ds generalizing t with
  | nil => rfl
  | cons d rest ih => rw [List.foldl_cons, ih, methods_declare]

/-- Declared once, a name stands for its declaration; else for what it was. -/
theorem find?_foldl_declare_eq_some_iff {ds : List TypeDecl} (distinct : (ds.map (·.name)).Nodup) {t : TypeTable}
    {n : String} {d : TypeDecl} :
    (ds.foldl declare t).find? n = some d ↔
      (d ∈ ds ∧ d.name = n) ∨ ((∀ e ∈ ds, e.name ≠ n) ∧ t.find? n = some d) := by
  have distinctReverse : (ds.reverse.map (·.name)).Nodup := by simpa using distinct
  rw [find?_foldl_declare, Option.or_eq_some_iff, find?_key_eq_some_iff distinctReverse]
  simp

end TypeTable

end CallSieve
