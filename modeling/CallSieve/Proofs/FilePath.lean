import CallSieve.FilePath
import Mathlib

/-!
A path lies in its parent, in the parent of that, and so on. What is looked for in all
of these, from the path outwards, is found in the nearest directory that has it
(`findSome?_ancestors_eq_some_iff`).
-/

namespace CallSieve.FilePath

theorem ancestors_of_root {p : FilePath} (root : p.parent? = none) : p.ancestors = [p] := by
  rw [ancestors]
  split
  · rfl
  · next known => simp [root] at known

theorem ancestors_of_parent? {p q : FilePath} (parent : p.parent? = some q) : p.ancestors = p :: q.ancestors := by
  rw [ancestors]
  split
  · next none => simp [parent] at none
  · next r known =>
    obtain rfl := Option.some.inj (parent.symm.trans known)
    rfl

theorem withoutIdleEnd_isPrefix (pieces : List String) : withoutIdleEnd pieces <+: pieces := by
  rw [withoutIdleEnd, ← List.reverse_suffix, List.reverse_reverse]
  exact List.dropWhile_suffix isIdle

theorem above?_isPrefix {pieces above : List String} (known : above? pieces = some above) : above <+: pieces := by
  unfold above? at known
  split at known
  · cases known
  · obtain rfl := Option.some.inj known
    have shorter := List.dropLast_prefix (withoutIdleEnd pieces)
    exact (withoutIdleEnd_isPrefix _).trans (shorter.trans (withoutIdleEnd_isPrefix pieces))

theorem parent?_isPrefix {p q : FilePath} (parent : p.parent? = some q) :
    q.isAbsolute = p.isAbsolute ∧ q.pieces <+: p.pieces := by
  fun_cases parent? p with
  | case1 pieces =>
    obtain ⟨above, known, rfl⟩ := Option.map_eq_some_iff.1 parent
    exact ⟨rfl, above?_isPrefix known⟩
  | case2 => cases parent
  | case3 first rest none =>
    simp only [parent?, none, Option.some.injEq] at parent
    subst parent
    exact ⟨rfl, List.nil_prefix⟩
  | case4 first rest above known =>
    simp only [parent?, known, Option.some.injEq] at parent
    subst parent
    exact ⟨rfl, List.cons_prefix_cons.mpr ⟨rfl, above?_isPrefix known⟩⟩

/-- The path is the directory or lies in it, by the text alone. -/
def LiesIn : FilePath → FilePath → Prop := Relation.ReflTransGen fun p q => p.parent? = some q

namespace LiesIn

variable {p q dir other : FilePath}

theorem refl (p : FilePath) : p.LiesIn p := Relation.ReflTransGen.refl

theorem iff_parent? : p.LiesIn dir ↔ p = dir ∨ ∃ q, p.parent? = some q ∧ q.LiesIn dir := by
  rw [LiesIn, Relation.ReflTransGen.cases_head_iff]

theorem length_le (inside : p.LiesIn dir) : dir.pieces.length ≤ p.pieces.length := by
  induction inside with
  | refl => exact le_rfl
  | tail _ parent ih => exact (length_lt_of_parent? parent).le.trans ih

theorem antisymm (inside : p.LiesIn q) (around : q.LiesIn p) : p = q := by
  rcases iff_parent?.mp inside with same | ⟨r, parent, inside⟩
  · exact same
  · have shorter := length_lt_of_parent? parent
    have longer := around.length_le.trans inside.length_le
    omega

/-- Of two directories around a path, one lies in the other. -/
theorem total (inside : p.LiesIn dir) (insideOther : p.LiesIn other) : dir.LiesIn other ∨ other.LiesIn dir :=
  Relation.ReflTransGen.total_of_right_unique
    (fun _ _ _ parent same => Option.some.inj (parent.symm.trans same)) inside insideOther

theorem isPrefix (inside : p.LiesIn dir) : dir.isAbsolute = p.isAbsolute ∧ dir.pieces <+: p.pieces := by
  induction inside with
  | refl => exact ⟨rfl, List.prefix_rfl⟩
  | tail _ parent ih =>
    obtain ⟨sameRoot, part⟩ := parent?_isPrefix parent
    exact ⟨sameRoot.trans ih.1, part.trans ih.2⟩

end LiesIn

/-- Of the path itself and the directories around it that have a property, this one is
    the nearest: it lies in all others. -/
structure IsNearest (has : FilePath → Prop) (p dir : FilePath) : Prop where
  around : p.LiesIn dir
  holds : has dir
  nearest : ∀ other, p.LiesIn other → has other → dir.LiesIn other

namespace IsNearest

variable {has : FilePath → Prop} {p q dir : FilePath}

theorem self (holds : has p) : IsNearest has p p := ⟨.refl p, holds, fun _ inside _ => inside⟩

theorem eq_of_holds (nearest : IsNearest has p dir) (holds : has p) : dir = p :=
  (nearest.nearest p (.refl p) holds).antisymm nearest.around

theorem unique {other : FilePath} (nearest : IsNearest has p dir) (alsoNearest : IsNearest has p other) :
    dir = other :=
  (nearest.nearest other alsoNearest.around alsoNearest.holds).antisymm
    (alsoNearest.nearest dir nearest.around nearest.holds)

/-- What is nearest to a path without the property is nearest to its parent. -/
theorem iff_parent? (lacks : ¬ has p) :
    IsNearest has p dir ↔ ∃ q, p.parent? = some q ∧ IsNearest has q dir := by
  constructor
  · rintro ⟨around, holds, nearest⟩
    rcases LiesIn.iff_parent?.mp around with rfl | ⟨q, parent, inside⟩
    · exact absurd holds lacks
    · exact ⟨q, parent, inside, holds, fun other further =>
        nearest other (LiesIn.iff_parent?.mpr (.inr ⟨q, parent, further⟩))⟩
  · rintro ⟨q, parent, around, holds, nearest⟩
    refine ⟨LiesIn.iff_parent?.mpr (.inr ⟨q, parent, around⟩), holds, fun other inside has => ?_⟩
    rcases LiesIn.iff_parent?.mp inside with rfl | ⟨r, same, further⟩
    · exact absurd has lacks
    · obtain rfl := Option.some.inj (parent.symm.trans same)
      exact nearest other further has

/-- Where any directory around a path has the property, one is the nearest. -/
theorem exists_iff : (∃ dir, IsNearest has p dir) ↔ ∃ dir, p.LiesIn dir ∧ has dir := by
  constructor
  · rintro ⟨dir, nearest⟩
    exact ⟨dir, nearest.around, nearest.holds⟩
  · rintro ⟨dir, inside, holds⟩
    induction p using ancestors.induct with
    | case1 p ih =>
      by_cases here : has p
      · exact ⟨p, self here⟩
      · rcases LiesIn.iff_parent?.mp inside with rfl | ⟨q, parent, inside⟩
        · exact absurd holds here
        · obtain ⟨found, nearest⟩ := ih q parent inside
          exact ⟨found, (iff_parent? here).mpr ⟨q, parent, nearest⟩⟩

/-- Which directory is the nearest does not depend on those around it. -/
theorem of_agree {hasToo : FilePath → Prop} (nearest : IsNearest has p dir)
    (agree : ∀ other, p.LiesIn other → other.LiesIn dir → (hasToo other ↔ has other)) :
    IsNearest hasToo p dir where
  around := nearest.around
  holds := (agree dir nearest.around (.refl dir)).mpr nearest.holds
  nearest other inside holds := by
    rcases nearest.around.total inside with around | between
    · exact around
    · exact nearest.nearest other inside ((agree other inside between).mp holds)

end IsNearest

theorem findSome?_ancestors_eq_some_iff {α : Type} {found? : FilePath → Option α} {p : FilePath} {a : α} :
    p.ancestors.findSome? found? = some a ↔
      ∃ dir, IsNearest (fun d => (found? d).isSome = true) p dir ∧ found? dir = some a := by
  induction p using ancestors.induct with
  | case1 p ih =>
    cases here : found? p with
    | some b =>
      have first : p.ancestors.findSome? found? = some b := by
        rw [ancestors, List.findSome?_cons, here]
      rw [first]
      constructor
      · intro same
        exact ⟨p, .self (by simp [here]), here.trans same⟩
      · rintro ⟨dir, nearest, found⟩
        obtain rfl := nearest.eq_of_holds (by simp [here])
        exact here.symm.trans found
    | none =>
      have onwards (dir : FilePath) : IsNearest (fun d => (found? d).isSome = true) p dir ↔
          ∃ q, p.parent? = some q ∧ IsNearest (fun d => (found? d).isSome = true) q dir :=
        IsNearest.iff_parent? (by simp [here])
      simp only [onwards]
      cases parent : p.parent? with
      | none => simp [ancestors_of_root parent, here]
      | some q => simp [ancestors_of_parent? parent, here, ih q parent]

end CallSieve.FilePath
