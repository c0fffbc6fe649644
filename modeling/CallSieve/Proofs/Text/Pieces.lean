import CallSieve.Text.Pieces
import CallSieve.Text.Space
import Mathlib

namespace CallSieve.Text

theorem cut_of_not_mem {sep : Char} {piece : List Char} (free : sep ∉ piece) : cut sep piece = [piece] := by
  induction piece with
  | nil => rfl
  | cons c piece ih =>
    rw [List.mem_cons, not_or] at free
    rw [cut, if_neg (Ne.symm free.1), ih free.2]

theorem cut_append {sep : Char} {piece rest : List Char} (free : sep ∉ piece) :
    cut sep (piece ++ sep :: rest) = piece :: cut sep rest := by
  induction piece with
  | nil => rw [List.nil_append, cut, if_pos rfl]
  | cons c piece ih =>
    rw [List.mem_cons, not_or] at free
    rw [List.cons_append, cut, if_neg (Ne.symm free.1), ih free.2]

theorem cut_intercalate {sep : Char} {pieces : List (List Char)} (some : pieces ≠ []) (free : ∀ p ∈ pieces, sep ∉ p) :
    cut sep ([sep].intercalate pieces) = pieces := by
  induction pieces with
  | nil => contradiction
  | cons piece more ih =>
    have pieceFree := free piece List.mem_cons_self
    cases more with
    | nil => simpa using cut_of_not_mem pieceFree
    | cons other more =>
      have others := ih (by simp) fun p member => free p (List.mem_cons_of_mem _ member)
      have joined : [sep].intercalate (piece :: other :: more) = piece ++ sep :: [sep].intercalate (other :: more) := by
        simp [List.intercalate]
      rw [joined, cut_append pieceFree, others]

/-- The pieces are the only ones that are the text with separators between them. -/
theorem cut_eq_iff {sep : Char} {text : List Char} {pieces : List (List Char)} :
    cut sep text = pieces ↔ pieces ≠ [] ∧ (∀ p ∈ pieces, sep ∉ p) ∧ [sep].intercalate pieces = text := by
  constructor
  · rintro rfl
    exact ⟨cut_ne_nil sep text, fun _ => not_mem_of_mem_cut, intercalate_cut sep text⟩
  · rintro ⟨some, free, rfl⟩
    exact cut_intercalate some free

/-- The second text is the first without white space around it, and neither begins
    nor ends with white space. -/
def Trims (cs core : List Char) : Prop :=
  ∃ before after, cs = before ++ core ++ after ∧ (∀ c ∈ before ++ after, isSpace c = true) ∧
    (∀ c ∈ core.head?, isSpace c = false) ∧ ∀ c ∈ core.getLast?, isSpace c = false

theorem not_isSpace_of_head?_dropWhile {cs : List Char} : ∀ c ∈ (cs.dropWhile isSpace).head?, isSpace c = false := by
  intro c head
  have fact := List.head?_dropWhile_not isSpace cs
  rwa [Option.mem_def.mp head] at fact

theorem dropWhile_isSpace_append {before rest : List Char} (spaces : ∀ c ∈ before, isSpace c = true)
    (first : ∀ c ∈ rest.head?, isSpace c = false) : (before ++ rest).dropWhile isSpace = rest := by
  rw [List.dropWhile_append_of_pos spaces]
  cases rest with
  | nil => rfl
  | cons c rest => rw [List.dropWhile_cons_of_neg (by simp [first c rfl])]

theorem trims_trimmedChars (cs : List Char) : Trims cs (trimmedChars cs) := by
  let rest := cs.dropWhile isSpace
  let before := cs.takeWhile isSpace
  let after := (rest.reverse.takeWhile isSpace).reverse
  have whole : trimmedChars cs ++ after = rest := by
    rw [trimmedChars, ← List.reverse_append, List.takeWhile_append_dropWhile, List.reverse_reverse]
  refine ⟨before, after, ?_, ?_, ?_, ?_⟩
  · rw [List.append_assoc, whole, List.takeWhile_append_dropWhile]
  · intro c member
    rcases List.mem_append.mp member with member | member
    · exact List.mem_takeWhile_imp member
    · exact List.mem_takeWhile_imp (List.mem_reverse.mp member)
  · intro c head
    have restHead : c ∈ rest.head? := by
      rw [← whole, List.head?_append, head]
      rfl
    exact not_isSpace_of_head?_dropWhile c restHead
  · intro c final
    rw [trimmedChars, List.getLast?_reverse] at final
    exact not_isSpace_of_head?_dropWhile c final

/-- Trimming leaves the only text that has white space around it in the whole, and
    none at its own ends. -/
theorem trimmedChars_eq_iff {cs core : List Char} : trimmedChars cs = core ↔ Trims cs core := by
  refine ⟨fun same => same ▸ trims_trimmedChars cs, ?_⟩
  rintro ⟨before, after, rfl, spaces, first, last⟩
  rw [List.forall_mem_append] at spaces
  cases core with
  | nil =>
    -- Nothing is left, so that no end tells the spaces before from those after.
    have gone : ((before ++ [] ++ after).dropWhile isSpace) = [] := by
      rw [List.dropWhile_eq_nil_iff]
      simpa [or_imp, forall_and] using spaces
    rw [trimmedChars, gone]
    rfl
  | cons c core =>
    have front : (before ++ (c :: core) ++ after).dropWhile isSpace = c :: core ++ after := by
      rw [List.append_assoc]
      exact dropWhile_isSpace_append spaces.1 first
    have back : (c :: core ++ after).reverse.dropWhile isSpace = (c :: core).reverse := by
      rw [List.reverse_append]
      exact dropWhile_isSpace_append (by simpa using spaces.2) (by simpa only [List.head?_reverse] using last)
    rw [trimmedChars, front, back, List.reverse_reverse]

end CallSieve.Text
