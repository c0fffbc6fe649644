import CallSieve.Report
import Mathlib

namespace CallSieve

namespace Finding

theorem le_iff {a b : Finding} : le a b = true ↔ a.line < b.line ∨ a.line = b.line ∧ a.id ≤ b.id := by
  simp [le]

theorem le_trans (a b c : Finding) (lower : le a b = true) (upper : le b c = true) : le a c = true := by
  rw [le_iff] at lower upper ⊢
  rcases lower with before | ⟨sameLine, idLe⟩
  · rcases upper with later | ⟨sameLine, -⟩
    · exact .inl (UInt32.lt_trans before later)
    · exact .inl (sameLine ▸ before)
  · rcases upper with later | ⟨sameLater, idLater⟩
    · exact .inl (sameLine ▸ later)
    · exact .inr ⟨sameLine.trans sameLater, String.le_trans idLe idLater⟩

theorem le_total (a b : Finding) : le a b = true ∨ le b a = true := by
  simp only [le_iff]
  by_cases before : a.line < b.line
  · exact .inl (.inl before)
  · by_cases after : b.line < a.line
    · exact .inr (.inl after)
    · have sameLine : a.line = b.line := UInt32.le_antisymm (UInt32.not_lt.mp after) (UInt32.not_lt.mp before)
      rcases String.le_total a.id b.id with idLe | idLe
      · exact .inl (.inr ⟨sameLine, idLe⟩)
      · exact .inr (.inr ⟨sameLine.symm, idLe⟩)

/-- Only findings of one line and one id may stand either way. -/
theorem le_antisymm {a b : Finding} (lower : le a b = true) (upper : le b a = true) : a.line = b.line ∧ a.id = b.id := by
  rw [le_iff] at lower upper
  rcases lower with before | ⟨sameLine, idLe⟩
  · rcases upper with after | ⟨sameLine, -⟩
    · exact absurd after (UInt32.not_lt.mpr (UInt32.le_of_lt before))
    · exact absurd before (sameLine ▸ UInt32.lt_irrefl _)
  · rcases upper with after | ⟨-, idGe⟩
    · exact absurd after (sameLine ▸ UInt32.lt_irrefl _)
    · exact ⟨sameLine, String.le_antisymm idLe idGe⟩

theorem le_or_le (a b : Finding) : (le a b || le b a) = true := by
  rw [Bool.or_eq_true]
  exact le_total a b

theorem pairwise_mergeSort (fs : List Finding) : (fs.mergeSort le).Pairwise fun a b => le a b = true :=
  List.pairwise_mergeSort le_trans le_or_le fs

def isAt (line : UInt32) (id : String) (f : Finding) : Bool := f.line = line ∧ f.id = id

/-- Findings of one line and one id are left in the order in which they were made. -/
theorem filter_mergeSort (fs : List Finding) (line : UInt32) (id : String) :
    (fs.mergeSort le).filter (isAt line id) = fs.filter (isAt line id) := by
  have tied : (fs.filter (isAt line id)).Pairwise fun a b => le a b = true := by
    refine List.pairwise_of_forall_mem_list fun a aMember b bMember => ?_
    simp only [isAt, List.mem_filter, decide_eq_true_eq] at aMember bMember
    obtain ⟨-, aLine, aId⟩ := aMember
    obtain ⟨-, bLine, bId⟩ := bMember
    rw [le_iff, aLine, bLine, aId, bId]
    exact .inr ⟨rfl, String.le_refl id⟩
  have kept : (fs.filter (isAt line id)).Sublist (fs.mergeSort le) :=
    List.sublist_mergeSort le_trans le_or_le tied List.filter_sublist
  have keptAlone : (fs.filter (isAt line id)).Sublist ((fs.mergeSort le).filter (isAt line id)) := by
    simpa using kept.filter (isAt line id)
  exact (keptAlone.eq_of_length ((List.mergeSort_perm fs le).filter _).length_eq.symm).symm

/-- Sorted findings do not depend on the order before, if line and id tell them apart. -/
theorem mergeSort_eq_of_perm {fs gs : List Finding} (perm : fs.Perm gs)
    (distinct : ∀ a ∈ fs, ∀ b ∈ fs, a.line = b.line → a.id = b.id → a = b) : fs.mergeSort le = gs.mergeSort le := by
  have sortedPerm : (fs.mergeSort le).Perm (gs.mergeSort le) :=
    (List.mergeSort_perm fs le).trans (perm.trans (List.mergeSort_perm gs le).symm)
  refine List.Perm.eq_of_pairwise ?_ (pairwise_mergeSort fs) (pairwise_mergeSort gs) sortedPerm
  intro a b aMember bMember lower upper
  have aBefore : a ∈ fs := List.mem_mergeSort.mp aMember
  have bBefore : b ∈ fs := perm.mem_iff.mpr (List.mem_mergeSort.mp bMember)
  obtain ⟨sameLine, sameId⟩ := le_antisymm lower upper
  exact distinct a aBefore b bBefore sameLine sameId

end Finding

end CallSieve
