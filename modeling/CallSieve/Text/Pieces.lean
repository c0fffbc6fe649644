namespace CallSieve.Text

/-- The pieces of a text, one more than it has separators. -/
def cut (sep : Char) : List Char → List (List Char)
  | [] => [[]]
  | c :: cs =>
    if c = sep then [] :: cut sep cs
    else match cut sep cs with
      | [] => [[c]]
      | piece :: more => (c :: piece) :: more

theorem cut_ne_nil (sep : Char) (cs : List Char) : cut sep cs ≠ [] := by
  fun_cases cut sep cs <;> simp

theorem not_mem_of_mem_cut {sep : Char} {cs piece : List Char} (mem : piece ∈ cut sep cs) : sep ∉ piece := by
  fun_induction cut sep cs generalizing piece with
  | case1 => simp_all
  | case2 cs ih => rcases List.mem_cons.1 mem with rfl | mem <;> simp_all
  | case3 c cs differ none ih => exact absurd none (cut_ne_nil _ _)
  | case4 c cs differ first more shape ih =>
    rcases List.mem_cons.1 mem with rfl | mem
    · have := ih (shape ▸ List.mem_cons_self)
      simp_all [eq_comm]
    · exact ih (shape ▸ List.mem_cons_of_mem _ mem)

theorem intercalate_cut (sep : Char) (cs : List Char) : [sep].intercalate (cut sep cs) = cs := by
  fun_induction cut sep cs with
  | case1 => rfl
  | case2 cs ih =>
    cases shape : cut sep cs with
    | nil => exact absurd shape (cut_ne_nil _ _)
    | cons first more => simp_all [List.intercalate]
  | case3 c cs differ none ih => exact absurd none (cut_ne_nil _ _)
  | case4 c cs differ first more shape ih =>
    cases more <;> simp_all [List.intercalate, List.intersperse]

def pieces (sep : Char) (text : String) : List String := (cut sep text.toList).map String.ofList

end CallSieve.Text
