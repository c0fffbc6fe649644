import CallSieve.Proofs.Text.Pieces

namespace CallSieve.Text

/-- The text is made of these lines, each with a newline at its end and with no other
    one in it. -/
structure IsLines (text : String) (lines : List String) : Prop where
  whole : text = String.join (lines.map (· ++ "\n"))
  inline : ∀ line ∈ lines, '\n' ∉ line.toList

theorem cut_flatMap {sep : Char} {pieces : List (List Char)} (free : ∀ p ∈ pieces, sep ∉ p) :
    cut sep (pieces.flatMap (· ++ [sep])) = pieces ++ [[]] := by
  induction pieces with
  | nil => rfl
  | cons piece more ih =>
    have others := ih fun p member => free p (List.mem_cons_of_mem _ member)
    rw [List.flatMap_cons, List.append_assoc, List.singleton_append, cut_append (free piece List.mem_cons_self), others]
    rfl

theorem flatMap_cut (sep : Char) (cs : List Char) : (cut sep cs).flatMap (· ++ [sep]) = cs ++ [sep] := by
  fun_induction cut sep cs with
  | case1 => rfl
  | case2 cs ih => rw [List.flatMap_cons, ih]; rfl
  | case3 c cs differ none ih => exact absurd none (cut_ne_nil _ _)
  | case4 c cs differ first more shape ih =>
    rw [shape, List.flatMap_cons] at ih
    rw [List.flatMap_cons, List.cons_append, List.cons_append, ih, List.cons_append]

/-- A text without separators in front goes into the first piece. -/
theorem cut_append_left {sep : Char} {front : List Char} (free : sep ∉ front) (cs : List Char) :
    ∃ first more, cut sep cs = first :: more ∧ cut sep (front ++ cs) = (front ++ first) :: more := by
  induction front with
  | nil =>
    cases shape : cut sep cs with
    | nil => exact absurd shape (cut_ne_nil sep cs)
    | cons first more => exact ⟨first, more, rfl, shape⟩
  | cons c front ih =>
    rw [List.mem_cons, not_or] at free
    obtain ⟨first, more, shape, joined⟩ := ih free.2
    refine ⟨first, more, shape, ?_⟩
    rw [List.cons_append, cut, if_neg (Ne.symm free.1), joined]
    rfl

theorem length_cut (sep : Char) (cs : List Char) : (cut sep cs).length = cs.count sep + 1 := by
  fun_induction cut sep cs with
  | case1 => rfl
  | case2 cs ih => rw [List.length_cons, ih, List.count_cons_self]
  | case3 c cs differ none ih => exact absurd none (cut_ne_nil _ _)
  | case4 c cs differ first more shape ih =>
    rw [shape] at ih
    rw [List.count_cons_of_ne differ, ← ih]
    rfl

namespace IsLines

variable {text other : String} {lines more : List String}

theorem pieces_eq (isLines : IsLines text lines) : pieces '\n' text = lines ++ [""] := by
  have chars : text.toList = (lines.map String.toList).flatMap (· ++ ['\n']) := by
    rw [isLines.whole, String.toList_join, List.flatMap_map, List.flatMap_map]
    simp only [String.toList_append]
    rfl
  have free : ∀ p ∈ lines.map String.toList, '\n' ∉ p := by simpa using isLines.inline
  rw [pieces, chars, cut_flatMap free, List.map_append, List.map_map]
  simp [Function.comp_def]

theorem unique (isLines : IsLines text lines) (isMore : IsLines text more) : lines = more :=
  List.append_cancel_right (isLines.pieces_eq.symm.trans isMore.pieces_eq)

theorem append (isLines : IsLines text lines) (isMore : IsLines other more) :
    IsLines (text ++ other) (lines ++ more) where
  whole := by rw [isLines.whole, isMore.whole, List.map_append, String.join_append]
  inline := List.forall_mem_append.mpr ⟨isLines.inline, isMore.inline⟩

end IsLines

theorem isLines_pieces (text : String) : IsLines (text ++ "\n") (pieces '\n' text) where
  whole := by
    rw [← String.toList_inj, String.toList_append, String.toList_join, pieces, List.map_map, List.flatMap_map]
    simp only [Function.comp_def, String.toList_append, String.toList_ofList]
    exact (flatMap_cut '\n' text.toList).symm
  inline := by
    intro line member
    obtain ⟨piece, isPiece, rfl⟩ := List.mem_map.mp member
    rw [String.toList_ofList]
    exact not_mem_of_mem_cut isPiece

/-- Texts of lines one after the other are made of the lines of each. -/
theorem isLines_join {α : Type} {items : List α} {text : α → String} {lines : α → List String}
    (each : ∀ a ∈ items, IsLines (text a) (lines a)) :
    IsLines (String.join (items.map text)) (items.flatMap lines) := by
  induction items with
  | nil => exact ⟨rfl, by simp⟩
  | cons a items ih =>
    rw [List.map_cons, String.join_cons, List.flatMap_cons]
    exact (each a List.mem_cons_self).append (ih fun b member => each b (List.mem_cons_of_mem _ member))

end CallSieve.Text
