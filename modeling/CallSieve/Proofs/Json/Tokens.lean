import CallSieve.Json.Token
import CallSieve.Proofs.Json.Strings

/-!
With more fuel than a text has characters, reading its tokens does not depend on
the fuel (`tokens?_eq_scan`). So the tokens of a text are the one that it begins
with and those of what follows it (`scan_of_first?`).
-/

namespace CallSieve.Json

theorem mark?_of_isWordChar {c : Char} (inWord : isWordChar c = true) : mark? c = none := by
  unfold mark?
  split
  all_goals first | rfl | exact absurd inWord (by decide)

theorem ne_quote_of_isWordChar {c : Char} (inWord : isWordChar c = true) : c ≠ '"' := by
  rintro rfl
  exact absurd inWord (by decide)

theorem isSpace_iff {c : Char} : isSpace c = true ↔ c = ' ' ∨ c = '\t' ∨ c = '\n' ∨ c = '\r' := by
  simp [isSpace, or_assoc]

/-- The text does not go on with a word. -/
def EndsWord (rest : List Char) : Prop := ∀ c ∈ rest.head?, isWordChar c = false

theorem takeWhile_of_endsWord {rest : List Char} (ends : EndsWord rest) : rest.takeWhile isWordChar = [] := by
  cases rest with
  | nil => rfl
  | cons c rest => rw [List.takeWhile_cons_of_neg (by simp [ends c rfl])]

theorem dropWhile_of_endsWord {rest : List Char} (ends : EndsWord rest) : rest.dropWhile isWordChar = rest := by
  cases rest with
  | nil => rfl
  | cons c rest => rw [List.dropWhile_cons_of_neg (by simp [ends c rfl])]

/-- The token that a text begins with, and what follows it. -/
def first? : List Char → Option (Token × List Char)
  | [] => none
  | c :: rest =>
    match mark? c with
    | some t => some (t, rest)
    | none =>
      if c = '"' then
        (pieces? rest).map fun (ps, after) => (.atom (.string ((join? ps).map String.ofList)), after)
      else
        (word? ((c :: rest).takeWhile isWordChar)).map fun v => (.atom v, (c :: rest).dropWhile isWordChar)

theorem first?_mark {c : Char} {t : Token} (mark : mark? c = some t) (rest : List Char) :
    first? (c :: rest) = some (t, rest) := by rw [first?, mark]

theorem first?_string {rest after : List Char} {ps : List Piece} (read : pieces? rest = some (ps, after)) :
    first? ('"' :: rest) = some (.atom (.string ((join? ps).map String.ofList)), after) := by
  have noMark : mark? '"' = none := by decide
  rw [first?, noMark]
  simp [read]

theorem first?_word {word : List Char} {v : Value} (read : word? word = some v)
    (inWord : ∀ c ∈ word, isWordChar c = true) {rest : List Char} (ends : EndsWord rest) :
    first? (word ++ rest) = some (.atom v, rest) := by
  cases word with
  | nil => cases read
  | cons c word =>
    have cInWord := inWord c List.mem_cons_self
    rw [List.cons_append, first?, mark?_of_isWordChar cInWord]
    simp only [ne_quote_of_isWordChar cInWord, ↓reduceIte, ← List.cons_append]
    rw [List.takeWhile_append_of_pos inWord, List.dropWhile_append_of_pos inWord, takeWhile_of_endsWord ends,
      dropWhile_of_endsWord ends, List.append_nil, read]
    rfl

theorem isSpace_of_first? {c : Char} {rest after : List Char} {t : Token}
    (read : first? (c :: rest) = some (t, after)) : isSpace c = false := by
  rw [Bool.eq_false_iff]
  intro space
  rcases isSpace_iff.mp space with rfl | rfl | rfl | rfl <;> cases read

theorem length_lt_of_first? {cs after : List Char} {t : Token} (read : first? cs = some (t, after)) :
    after.length < cs.length := by
  unfold first? at read
  split at read
  · cases read
  · next c rest =>
    split at read
    · cases read
      exact Nat.lt_succ_self _
    · split at read
      · obtain ⟨_, string, same⟩ := Option.map_eq_some_iff.mp read
        cases same
        exact Nat.lt_succ_of_lt (length_lt_of_pieces? string)
      · obtain ⟨v, word, same⟩ := Option.map_eq_some_iff.mp read
        cases same
        by_cases inWord : isWordChar c = true
        · rw [List.dropWhile_cons_of_pos inWord]
          exact Nat.lt_succ_of_le (List.dropWhile_sublist _).length_le
        · rw [List.takeWhile_cons_of_neg inWord] at word
          cases word

theorem tokens?_cons (fuel : Nat) (c : Char) (rest : List Char) :
    tokens? (fuel + 1) (c :: rest) = if isSpace c then tokens? fuel rest
      else (first? (c :: rest)).bind fun read => (tokens? fuel read.2).map (read.1 :: ·) := by
  rw [tokens?, first?]
  by_cases space : isSpace c = true
  · rw [if_pos space, if_pos space]
  · rw [if_neg space, if_neg space]
    cases mark? c with
    | some t => rfl
    | none =>
      by_cases quote : c = '"'
      · rw [if_pos quote, if_pos quote]
        cases pieces? rest <;> rfl
      · rw [if_neg quote, if_neg quote]
        cases word? ((c :: rest).takeWhile isWordChar) <;> rfl

theorem tokens?_eq_of_lt {fuel other : Nat} {cs : List Char} (enough : cs.length < fuel)
    (enoughOther : cs.length < other) : tokens? fuel cs = tokens? other cs := by
  induction fuel generalizing other cs with
  | zero => omega
  | succ fuel ih =>
    obtain ⟨other, rfl⟩ : ∃ n, other = n + 1 := ⟨other - 1, by omega⟩
    cases cs with
    | nil => rfl
    | cons c rest =>
      have same (after : List Char) (shorter : after.length < (c :: rest).length) :
          tokens? fuel after = tokens? other after := ih (by omega) (by omega)
      rw [tokens?_cons, tokens?_cons, same rest (Nat.lt_succ_self _)]
      split
      · rfl
      · refine Option.bind_congr fun (t, after) read => ?_
        exact congrArg _ (same after (length_lt_of_first? read))

/-- The tokens of a text, with as much fuel as any text of its length needs. -/
def scan (cs : List Char) : Option (List Token) := tokens? (cs.length + 1) cs

theorem tokens?_eq_scan {fuel : Nat} {cs : List Char} (enough : cs.length < fuel) : tokens? fuel cs = scan cs :=
  tokens?_eq_of_lt enough (Nat.lt_succ_self _)

theorem scan_space {c : Char} (space : isSpace c = true) (rest : List Char) : scan (c :: rest) = scan rest := by
  rw [scan, tokens?_cons, if_pos space]
  rfl

theorem scan_of_first? {cs after : List Char} {t : Token} (read : first? cs = some (t, after)) :
    scan cs = (scan after).map (t :: ·) := by
  cases cs with
  | nil => cases read
  | cons c rest =>
    have enough : after.length < (c :: rest).length := length_lt_of_first? read
    rw [scan, tokens?_cons, isSpace_of_first? read, read]
    simp only [Bool.false_eq_true, ↓reduceIte, Option.bind_some]
    rw [tokens?_eq_scan enough]

end CallSieve.Json
