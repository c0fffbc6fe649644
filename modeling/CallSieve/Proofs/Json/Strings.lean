import CallSieve.Json.Text
import Mathlib

namespace CallSieve.Json

theorem hexDigit?_digitChar : ∀ d < 16, Text.hexDigit? (Nat.digitChar d) = some d := by decide

/-- Control characters have numbers of two digits, and numbers below the surrogates are characters. -/
theorem ofDigits?_unicodeEscape {c : Char} (control : c.toNat < 0x20) :
    Piece.ofDigits? ['0', '0', Nat.digitChar (c.toNat / 16), Nat.digitChar (c.toNat % 16)] = some (.char c) := by
  have high := hexDigit?_digitChar (c.toNat / 16) (by omega)
  have low := hexDigit?_digitChar (c.toNat % 16) (by omega)
  have zero : Text.hexDigit? '0' = some 0 := by decide
  have number : Text.hexNumber? ['0', '0', Nat.digitChar (c.toNat / 16), Nat.digitChar (c.toNat % 16)] =
      some c.toNat := by
    simp only [Text.hexNumber?, List.mapM_cons, List.mapM_nil, zero, high, low]
    simp [Nat.div_add_mod]
  rw [Piece.ofDigits?, number, Option.map_some, if_pos (.inl (by omega)), Char.ofNat_toNat]

theorem pieces?_encodeChar (c : Char) (rest : List Char) :
    pieces? (encodeChar c ++ rest) = (pieces? rest).map fun (ps, after) => (.char c :: ps, after) := by
  unfold encodeChar
  split_ifs with quote backslash backspace formFeed newline carriageReturn tab control
  · subst quote; rfl
  · subst backslash; rfl
  · subst backspace; rfl
  · subst formFeed; rfl
  · subst newline; rfl
  · subst carriageReturn; rfl
  · subst tab; rfl
  · rw [unicodeEscape, List.cons_append, List.cons_append, List.cons_append, List.cons_append, List.cons_append,
      List.cons_append, List.nil_append, pieces?, ofDigits?_unicodeEscape control]
    rfl
  · rw [List.singleton_append, pieces?.eq_def]
    split <;> simp_all

theorem pieces?_encode (text rest : List Char) :
    pieces? (encode text ++ '"' :: rest) = some (text.map .char, rest) := by
  induction text with
  | nil => rfl
  | cons c text ih =>
    rw [encode, List.flatMap_cons, List.append_assoc, pieces?_encodeChar]
    rw [encode] at ih
    rw [ih]
    rfl

theorem join?_map_char (text : List Char) : join? (text.map .char) = some text := by
  induction text with
  | nil => rfl
  | cons c text ih => simp [join?, ih]

theorem length_lt_of_pieces? {cs after : List Char} {ps : List Piece} (read : pieces? cs = some (ps, after)) :
    after.length < cs.length := by
  fun_induction pieces? cs generalizing ps with
  | case1 rest =>
    cases read
    simp
  | case2 a b c d rest ih =>
    obtain ⟨_, -, mapped⟩ := Option.bind_eq_some_iff.mp read
    obtain ⟨_, tail, same⟩ := Option.map_eq_some_iff.mp mapped
    cases same
    have shorter := ih tail
    simp only [List.length_cons]
    omega
  | case3 c rest _ ih =>
    obtain ⟨_, -, mapped⟩ := Option.bind_eq_some_iff.mp read
    obtain ⟨_, tail, same⟩ := Option.map_eq_some_iff.mp mapped
    cases same
    have shorter := ih tail
    simp only [List.length_cons]
    omega
  | case4 => cases read
  | case5 c rest _ _ _ _ ih =>
    obtain ⟨_, tail, same⟩ := Option.map_eq_some_iff.mp read
    cases same
    exact Nat.lt_succ_of_lt (ih tail)
  | case6 => cases read

end CallSieve.Json
