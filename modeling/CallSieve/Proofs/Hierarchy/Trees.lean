import CallSieve.Hierarchy.Tree
import CallSieve.Proofs.Hierarchy.Walk

/-!
In a tree two types of one name may differ in what is above them, and the walk
expands only the first of them. So a subtype is always found by a chain of known
types, but a chain need not be found. Where the known types of one name list
known supertypes of the same names (`Agrees`), every chain is found, in
whatever order and however often supertypes are listed (`isSubtype_tree`).
-/

namespace CallSieve

namespace Hierarchy

variable {τ : Type} [Hierarchy τ]

/-- The names of the direct supertypes that are known. -/
def knownSupers (t : τ) : List String := ((supers t).filter (!isUnknown ·)).map name

theorem mem_knownSupers_iff {t : τ} {n : String} :
    n ∈ knownSupers t ↔ ∃ s ∈ supers t, isUnknown s = false ∧ name s = n := by
  simp [knownSupers, and_assoc]

/-- Of any two types at the ends of chains of known types that begin with `t`, if
    they have one name, the known direct supertypes have the same names. -/
def Agrees (t : τ) : Prop :=
  ∀ a b, Reaches t a → Reaches t b → name a = name b → ∀ n, n ∈ knownSupers a ↔ n ∈ knownSupers b

theorem Agrees.coherent {t : τ} (agrees : Agrees t) : Coherent [] [t] := by
  intro a b aReached bReached sameName s above known
  rw [reached_singleton_iff] at aReached bReached
  have listed : name s ∈ knownSupers a := mem_knownSupers_iff.mpr ⟨s, above, known, rfl⟩
  exact mem_knownSupers_iff.mp ((agrees a b aReached bReached sameName (name s)).mp listed)

/-- A subtype is found by a chain, whether or not names say what is above them. -/
theorem exists_reaches_of_isSubtype {t : τ} {n : String} (subtype : isSubtype t n = true) :
    ∃ s, Reaches t s ∧ name s = n := by
  obtain ⟨s, reached, named⟩ := reached_of_climb_eq_found (isSubtype_iff_climb.mp subtype)
  exact ⟨s, reached_singleton_iff.mp reached, named⟩

end Hierarchy

namespace TypeTree

open Hierarchy (Reaches Agrees knownSupers mem_knownSupers_iff isSubtype)

mutual
/-- The types at the ends of the chains of known types that begin with a tree. -/
def reached : TypeTree → List TypeTree
  | node n unknown supers => if unknown then [] else node n unknown supers :: reachedAbove supers
/-- The same for each of some trees. -/
def reachedAbove : List TypeTree → List TypeTree
  | [] => []
  | t :: rest => reached t ++ reachedAbove rest
end

theorem mem_reachedAbove_iff {s : TypeTree} {trees : List TypeTree} :
    s ∈ reachedAbove trees ↔ ∃ t ∈ trees, s ∈ reached t := by
  induction trees with
  | nil => simp [reachedAbove]
  | cons t rest ih => simp [reachedAbove, ih]

theorem mem_reached_iff {t s : TypeTree} :
    s ∈ reached t ↔ t.isUnknown = false ∧ (s = t ∨ ∃ b ∈ t.supers, s ∈ reached b) := by
  cases t with
  | node n unknown supers => cases unknown <;> simp [reached, isUnknown, TypeTree.supers, mem_reachedAbove_iff]

theorem sizeOf_lt_of_mem_supers {t b : TypeTree} (above : b ∈ t.supers) : sizeOf b < sizeOf t := by
  cases t with
  | node n unknown supers =>
    have smaller : sizeOf b < sizeOf supers := List.sizeOf_lt_of_mem above
    rw [node.sizeOf_spec]
    omega

theorem reaches_of_mem_reached {t s : TypeTree} (member : s ∈ reached t) : Reaches t s := by
  obtain ⟨known, rfl | ⟨b, above, member⟩⟩ := mem_reached_iff.mp member
  · exact ⟨known, .refl⟩
  · have smaller := sizeOf_lt_of_mem_supers above
    obtain ⟨bKnown, path⟩ := reaches_of_mem_reached member
    exact ⟨known, path.head ⟨above, bKnown⟩⟩
termination_by sizeOf t

theorem reaches_iff_mem_reached {t s : TypeTree} : Reaches t s ↔ s ∈ reached t := by
  refine ⟨?_, reaches_of_mem_reached⟩
  rintro ⟨known, path⟩
  induction path using Relation.ReflTransGen.head_induction_on with
  | refl => exact mem_reached_iff.mpr ⟨known, .inl rfl⟩
  | head step _ ih => exact mem_reached_iff.mpr ⟨known, .inr ⟨_, step.1, ih step.2⟩⟩

theorem agrees_iff {t : TypeTree} : Agrees t ↔
    ∀ a ∈ reached t, ∀ b ∈ reached t, a.name = b.name → ∀ n ∈ knownSupers a, n ∈ knownSupers b := by
  simp only [Agrees, reaches_iff_mem_reached]
  constructor
  · intro agrees a aMember b bMember sameName n
    exact (agrees a b aMember bMember sameName n).mp
  · intro agrees a b aMember bMember sameName n
    exact ⟨agrees a aMember b bMember sameName n, agrees b bMember a aMember sameName.symm n⟩

instance (t : TypeTree) : Decidable (Agrees t) := decidable_of_iff _ agrees_iff.symm

/-- One tree made from another by reordering and repeating direct supertypes and by
    dropping repetitions, anywhere in it and any number of times. -/
inductive Rearranged : TypeTree → TypeTree → Prop
  | members {n : String} {unknown : Bool} {supers supers' : List TypeTree} (same : ∀ s, s ∈ supers ↔ s ∈ supers') :
    Rearranged (node n unknown supers) (node n unknown supers')
  | inside {n : String} {unknown : Bool} {before after : List TypeTree} {s s' : TypeTree} (below : Rearranged s s') :
    Rearranged (node n unknown (before ++ s :: after)) (node n unknown (before ++ s' :: after))
  | trans {t u v : TypeTree} (first : Rearranged t u) (second : Rearranged u v) : Rearranged t v

namespace Rearranged

variable {t u : TypeTree}

theorem refl (t : TypeTree) : Rearranged t t := by
  cases t
  exact .members fun _ => Iff.rfl

theorem symm (rearranged : Rearranged t u) : Rearranged u t := by
  induction rearranged with
  | members same => exact .members fun s => (same s).symm
  | inside _ ih => exact .inside ih
  | trans _ _ first second => exact .trans second first

theorem name_eq (rearranged : Rearranged t u) : u.name = t.name := by
  induction rearranged with
  | members | inside => rfl
  | trans _ _ first second => exact second.trans first

theorem isUnknown_eq (rearranged : Rearranged t u) : u.isUnknown = t.isUnknown := by
  induction rearranged with
  | members | inside => rfl
  | trans _ _ first second => exact second.trans first

theorem exists_super (rearranged : Rearranged t u) {s : TypeTree} (above : s ∈ t.supers) :
    ∃ s' ∈ u.supers, Rearranged s s' := by
  induction rearranged generalizing s with
  | members same => exact ⟨s, (same s).mp above, refl s⟩
  | @inside _ _ before after x x' below _ =>
    have place : s ∈ before ∨ s = x ∨ s ∈ after := by simpa [supers] using above
    rcases place with earlier | rfl | later
    · exact ⟨s, by simp [supers, earlier], refl s⟩
    · exact ⟨x', by simp [supers], below⟩
    · exact ⟨s, by simp [supers, later], refl s⟩
  | trans _ _ first second =>
    obtain ⟨s', above', one⟩ := first above
    obtain ⟨s'', above'', other⟩ := second above'
    exact ⟨s'', above'', one.trans other⟩

theorem exists_reaches (rearranged : Rearranged t u) {s : TypeTree} (reaches : Reaches t s) :
    ∃ s', Reaches u s' ∧ Rearranged s s' := by
  obtain ⟨known, path⟩ := reaches
  induction path with
  | refl => exact ⟨u, ⟨rearranged.isUnknown_eq.trans known, .refl⟩, rearranged⟩
  | tail _ step ih =>
    obtain ⟨a, ⟨uKnown, path⟩, below⟩ := ih
    obtain ⟨b, above, counterpart⟩ := below.exists_super step.1
    exact ⟨b, ⟨uKnown, path.tail ⟨above, counterpart.isUnknown_eq.trans step.2⟩⟩, counterpart⟩

theorem mem_knownSupers (rearranged : Rearranged t u) {n : String} (listed : n ∈ knownSupers t) :
    n ∈ knownSupers u := by
  obtain ⟨s, above, known, rfl⟩ := mem_knownSupers_iff.mp listed
  obtain ⟨s', above', counterpart⟩ := rearranged.exists_super above
  exact mem_knownSupers_iff.mpr ⟨s', above', counterpart.isUnknown_eq.trans known, counterpart.name_eq⟩

theorem agrees (rearranged : Rearranged t u) (agrees : Agrees t) : Agrees u := by
  intro a b aReached bReached sameName n
  obtain ⟨a', aReached', aCounterpart⟩ := rearranged.symm.exists_reaches aReached
  obtain ⟨b', bReached', bCounterpart⟩ := rearranged.symm.exists_reaches bReached
  have sameName' : a'.name = b'.name := aCounterpart.name_eq.trans (sameName.trans bCounterpart.name_eq.symm)
  have sameSupers := agrees a' b' aReached' bReached' sameName' n
  constructor
  · exact fun listed => bCounterpart.symm.mem_knownSupers (sameSupers.mp (aCounterpart.mem_knownSupers listed))
  · exact fun listed => aCounterpart.symm.mem_knownSupers (sameSupers.mpr (bCounterpart.mem_knownSupers listed))

theorem exists_named (rearranged : Rearranged t u) {n : String} (found : ∃ s, Reaches t s ∧ s.name = n) :
    ∃ s, Reaches u s ∧ s.name = n := by
  obtain ⟨s, reaches, rfl⟩ := found
  obtain ⟨s', reaches', counterpart⟩ := rearranged.exists_reaches reaches
  exact ⟨s', reaches', counterpart.name_eq⟩

end Rearranged

/-- The subtype test of any tree. A chain of known types leads to each name that it
    finds. Where types of one name agree on what is above them, it finds each name
    that a chain leads to, so its answer is that of every rearranged tree. -/
theorem isSubtype_tree (t : TypeTree) (n : String) :
    (isSubtype t n = true → ∃ s, Reaches t s ∧ s.name = n) ∧
    (Agrees t → (isSubtype t n = true ↔ ∃ s, Reaches t s ∧ s.name = n) ∧
      ∀ u, Rearranged t u → isSubtype u n = isSubtype t n) := by
  refine ⟨Hierarchy.exists_reaches_of_isSubtype, fun agrees => ?_⟩
  have found : isSubtype t n = true ↔ ∃ s, Reaches t s ∧ s.name = n :=
    Hierarchy.isSubtype_iff_reaches agrees.coherent
  refine ⟨found, fun u rearranged => ?_⟩
  have foundAgain : isSubtype u n = true ↔ ∃ s, Reaches u s ∧ s.name = n :=
    Hierarchy.isSubtype_iff_reaches (rearranged.agrees agrees).coherent
  rw [Bool.eq_iff_iff, found, foundAgain]
  exact ⟨rearranged.symm.exists_named, rearranged.exists_named⟩

/-- A class with two instances of one interface, of which the second lists more but
    nothing more that is known. -/
def grid : TypeTree :=
  node "app.Grid" false [
    node "app.Rows" false [node "app.Cells" false []],
    node "app.Rows" false [
      node "app.Lost" true [node "app.Found" false []],
      node "app.Cells" false []]]

def gridAgain : TypeTree := node "app.Grid" false (grid.supers.reverse ++ grid.supers.take 1)

theorem rearranged_grid : Rearranged grid gridAgain := .members fun s => by simp [supers, grid]; tauto

theorem isSubtype_grid :
    Agrees grid ∧ isSubtype grid "app.Cells" = true ∧ isSubtype gridAgain "app.Cells" = true ∧
      isSubtype grid "app.Found" = false := by
  have agrees : Agrees grid := by decide
  have noChain : ∀ s ∈ reached grid, s.name ≠ "app.Found" := by decide
  obtain ⟨found, sameAgain⟩ := (isSubtype_tree grid "app.Cells").2 agrees
  have subtype : isSubtype grid "app.Cells" = true :=
    found.mpr ⟨node "app.Cells" false [], reaches_iff_mem_reached.mpr (by simp [grid, reached, reachedAbove]), rfl⟩
  refine ⟨agrees, subtype, (sameAgain gridAgain rearranged_grid).trans subtype, Bool.eq_false_iff.mpr fun hidden => ?_⟩
  obtain ⟨s, reaches, named⟩ := (isSubtype_tree grid "app.Found").1 hidden
  exact noChain s (reaches_iff_mem_reached.mp reaches) named

/-- Where types of one name differ in what is above them, the first of them decides. -/
example :
    let bare := node "app.Rows" false []
    let full := node "app.Rows" false [node "app.Cells" false []]
    isSubtype (node "app.Grid" false [bare, full]) "app.Cells" = false ∧
      isSubtype (node "app.Grid" false [full, bare]) "app.Cells" = true := by cbv

end TypeTree

end CallSieve
