import CallSieve.Proofs.Hierarchy.Walk
import CallSieve.TypeTable

/-!
A type of a table is determined by its name, so the walk misses nothing: a type
is a subtype of a name exactly if a chain of known types leads to that name
(`isSubtype_get`). Said of names alone, subtyping is the reflexive and
transitive closure of `Extends` on declared names (`isSubtype_get_iff`). The walk
itself, with any names visited before, is described by `walkAbove_visits`.
-/

namespace CallSieve.TypeTable

open Hierarchy (IsOpen Step Reached Coherent Reaches isSubtype)

variable {t : TypeTable}

theorem name_of_find? {a : String} {d : TypeDecl} (found : t.find? a = some d) : d.name = a := by
  simpa using List.find?_some found

theorem contains_iff {a : String} : t.contains a = true ↔ ∃ d, t.find? a = some d := Option.isSome_iff_exists

/-- A declared name lists another declared one, or has it for an implicit root. -/
def Extends (t : TypeTable) (a b : String) : Prop :=
  t.contains b = true ∧ ∃ d, t.find? a = some d ∧ b ∈ t.superNames d

theorem mem_superNames_iff {d : TypeDecl} {b : String} :
    b ∈ t.superNames d ↔ b ∈ d.supers ∨ t.hasImplicitRoot d = true ∧ b = rootName := by
  rw [superNames]
  split <;> simp_all

@[simp] theorem isUnknown_get {a : String} : Hierarchy.isUnknown (t.get a) = !t.contains a := by
  cases h : t.find? a <;> simp [Hierarchy.isUnknown, get, contains, h]

theorem name_get {a : String} (declared : t.contains a = true) : Hierarchy.name (t.get a) = a := by
  obtain ⟨d, found⟩ := contains_iff.mp declared
  simpa [Hierarchy.name, TypeRef.name, get, found] using name_of_find? found

theorem mem_supers_get {a : String} {r : TypeRef} :
    r ∈ Hierarchy.supers (t.get a) ↔ ∃ d b, t.find? a = some d ∧ b ∈ t.superNames d ∧ r = t.get b := by
  cases h : t.find? a with
  | none => simp [Hierarchy.supers, TypeRef.supers, get, h]
  | some d => simp [Hierarchy.supers, TypeRef.supers, get, h, eq_comm]

theorem step_get_iff {a : String} {r : TypeRef} :
    r ∈ Hierarchy.supers (t.get a) ∧ Hierarchy.isUnknown r = false ↔ ∃ b, t.Extends a b ∧ r = t.get b := by
  rw [mem_supers_get]
  constructor
  · rintro ⟨⟨d, b, found, listed, rfl⟩, known⟩
    exact ⟨b, ⟨by simpa using known, d, found, listed⟩, rfl⟩
  · rintro ⟨b, ⟨declared, d, found, listed⟩, rfl⟩
    exact ⟨⟨d, b, found, listed, rfl⟩, by simp [declared]⟩

theorem contains_of_extends {a b : String} (declared : t.contains a = true)
    (path : Relation.ReflTransGen t.Extends a b) : t.contains b = true := by
  cases path with
  | refl => exact declared
  | tail _ last => exact last.1

theorem reaches_get_iff {a : String} {r : TypeRef} :
    Reaches (t.get a) r ↔ t.contains a = true ∧ ∃ b, Relation.ReflTransGen t.Extends a b ∧ r = t.get b := by
  constructor
  · rintro ⟨known, path⟩
    refine ⟨by simpa using known, ?_⟩
    induction path with
    | refl => exact ⟨a, .refl, rfl⟩
    | tail _ step ih =>
      obtain ⟨b, pathToB, rfl⟩ := ih
      obtain ⟨c, above, rfl⟩ := step_get_iff.mp step
      exact ⟨c, pathToB.tail above, rfl⟩
  · rintro ⟨declared, b, path, rfl⟩
    refine ⟨by simp [declared], ?_⟩
    induction path with
    | refl => exact .refl
    | tail _ step ih => exact ih.tail (step_get_iff.mpr ⟨_, step, rfl⟩)

theorem eq_get_of_reached {visited : List String} {pending : List TypeRef}
    (named : ∀ r ∈ pending, ∃ a, r = t.get a) {r : TypeRef} (reached : Reached visited pending r) :
    r = t.get (Hierarchy.name r) := by
  obtain ⟨s, member, isOpen, path⟩ := reached
  have found : ∃ a, r = t.get a ∧ t.contains a = true := by
    induction path with
    | refl =>
      obtain ⟨a, rfl⟩ := named s member
      exact ⟨a, rfl, by simpa using isOpen.1⟩
    | tail _ step ih =>
      obtain ⟨a, rfl, -⟩ := ih
      obtain ⟨b, above, rfl⟩ := step_get_iff.mp ⟨step.1, step.2.1⟩
      exact ⟨b, rfl, above.1⟩
  obtain ⟨a, rfl, declared⟩ := found
  rw [name_get declared]

/-- In a table a name says all about a type. -/
theorem coherent {visited : List String} {pending : List TypeRef} (named : ∀ r ∈ pending, ∃ a, r = t.get a) :
    Coherent visited pending := by
  intro r s rReached sReached sameName u above known
  have same : r = s := by rw [eq_get_of_reached named rReached, eq_get_of_reached named sReached, sameName]
  exact ⟨u, same ▸ above, known, rfl⟩

theorem isSubtype_get_iff_reaches {a n : String} :
    isSubtype (t.get a) n = true ↔ ∃ r, Reaches (t.get a) r ∧ Hierarchy.name r = n :=
  Hierarchy.isSubtype_iff_reaches (coherent fun _ member => ⟨a, List.mem_singleton.mp member⟩)

theorem isSubtype_get_iff {a n : String} :
    isSubtype (t.get a) n = true ↔ t.contains a = true ∧ Relation.ReflTransGen t.Extends a n := by
  rw [isSubtype_get_iff_reaches]
  simp only [reaches_get_iff]
  constructor
  · rintro ⟨r, ⟨declared, b, path, rfl⟩, rfl⟩
    rw [name_get (contains_of_extends declared path)]
    exact ⟨declared, path⟩
  · rintro ⟨declared, path⟩
    exact ⟨t.get n, ⟨declared, n, path, rfl⟩, name_get (contains_of_extends declared path)⟩

theorem isSubtype_get_trans {a b c : String} (lower : isSubtype (t.get a) b = true)
    (upper : isSubtype (t.get b) c = true) : isSubtype (t.get a) c = true := by
  obtain ⟨declared, below⟩ := isSubtype_get_iff.mp lower
  obtain ⟨-, above⟩ := isSubtype_get_iff.mp upper
  exact isSubtype_get_iff.mpr ⟨declared, below.trans above⟩

/-- The subtype test of a table, whatever was declared: true exactly if known
    types, each a direct supertype of the one before, lead to the name. So it
    is reflexive and transitive on declared names, and false for all others. -/
theorem isSubtype_get (t : TypeTable) :
    (∀ a n, isSubtype (t.get a) n = true ↔ ∃ r, Reaches (t.get a) r ∧ Hierarchy.name r = n) ∧
    (∀ a, t.contains a = true → isSubtype (t.get a) a = true) ∧
    (∀ a b c, isSubtype (t.get a) b = true → isSubtype (t.get b) c = true → isSubtype (t.get a) c = true) ∧
    (∀ a n, t.contains a = false → isSubtype (t.get a) n = false) := by
  refine ⟨fun a n => isSubtype_get_iff_reaches, ?_, ?_, ?_⟩
  · intro a declared
    exact isSubtype_get_iff.mpr ⟨declared, .refl⟩
  · intro a b c lower upper
    obtain ⟨declared, below⟩ := isSubtype_get_iff.mp lower
    obtain ⟨-, above⟩ := isSubtype_get_iff.mp upper
    exact isSubtype_get_iff.mpr ⟨declared, below.trans above⟩
  · intro a n undeclared
    by_contra subtype
    have declared := (isSubtype_get_iff.mp (by simpa using subtype)).1
    simp [undeclared] at declared

end CallSieve.TypeTable

namespace CallSieve.TypeRef

open Hierarchy (Step walkAbove)

theorem exists_name_of_mem_supers {r s : TypeRef} (above : s ∈ Hierarchy.supers r) : ∃ a, s = r.table.get a := by
  obtain ⟨t, decl⟩ := r
  cases decl with
  | none => cases above
  | some d =>
    obtain ⟨a, -, rfl⟩ := List.mem_map.mp above
    exact ⟨a, rfl⟩

/-- The walk above any type of any table, whatever names are visited before. It finds
    the wanted name exactly if a chain of steps up, each to a known type of a name that
    is not visited before, leads from the type to one of that name. If it does not find
    it, it has visited the names of all types at the end of such chains, and no others
    but those it began with. -/
theorem walkAbove_visits (r : TypeRef) (wanted : String) (visited : List String) :
    (walkAbove r wanted visited = .found ↔
      ∃ s, Relation.TransGen (Step visited) r s ∧ Hierarchy.name s = wanted) ∧
    ∀ after, walkAbove r wanted visited = .exhausted after →
      ∀ n, n ∈ after ↔ n ∈ visited ∨ ∃ s, Relation.TransGen (Step visited) r s ∧ Hierarchy.name s = n := by
  have coherent : Hierarchy.Coherent visited (Hierarchy.supers r) :=
    TypeTable.coherent fun _ above => exists_name_of_mem_supers above
  constructor
  · rw [walkAbove, Hierarchy.climb_eq_found_iff coherent]
    simp only [Hierarchy.reached_supers_iff]
  · intro after ended n
    rw [(Hierarchy.exhausted_of_climb_eq ended).mem_iff coherent]
    simp only [Hierarchy.reached_supers_iff]

end CallSieve.TypeRef
