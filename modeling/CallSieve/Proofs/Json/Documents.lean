import CallSieve.Json.Document
import CallSieve.Proofs.Json.Tokens

/-!
A value is read back from its text (`parse?_pretty`), with any white space after
it. Both ways lead over its tokens: those of its text, however deep it is indented
(`scan_pretty`), and those that are read as the value, whatever follows them
(`value?_tokens`).
-/

namespace CallSieve.Json

theorem head?_toDigits_ne {n : Nat} (positive : 0 < n) : (Nat.toDigits 10 n).head? ≠ some '0' := by
  induction n using Nat.strong_induction_on with
  | _ n ih =>
    rw [Nat.toDigits_eq_if (by decide)]
    split_ifs with small
    · have digits : ∀ d < 10, 0 < d → [Nat.digitChar d].head? ≠ some '0' := by decide
      exact digits n small positive
    · rw [List.head?_append_of_ne_nil _ Nat.toDigits_ne_nil]
      exact ih (n / 10) (by omega) (by omega)

theorem isDigit_of_mem_toDigits {n : Nat} : ∀ c ∈ Nat.toDigits 10 n, c.isDigit = true := fun _ member =>
  Nat.isDigit_of_mem_toDigits (by decide) (by decide) member

theorem isWhole_toDigits (n : Nat) : isWhole (Nat.toDigits 10 n) = true := by
  simp only [isWhole, Bool.and_eq_true, Bool.or_eq_true, bne_iff_ne, List.all_eq_true, Bool.not_eq_true',
    List.isEmpty_eq_false_iff]
  refine ⟨⟨Nat.toDigits_ne_nil, isDigit_of_mem_toDigits⟩, ?_⟩
  rcases Nat.eq_zero_or_pos n with rfl | positive
  · exact .inr rfl
  · exact .inl (head?_toDigits_ne positive)

theorem ofDigits_toDigits (n : Nat) : ofDigits (Nat.toDigits 10 n) = n :=
  Nat.ofDigitChars_toDigits (by decide) (by decide)

theorem ne_of_digits {digits : List Char} (all : ∀ c ∈ digits, c.isDigit = true) {c : Char} {rest : List Char}
    (letter : c.isDigit = false) : digits ≠ c :: rest := by
  rintro rfl
  simp [letter] at all

theorem word?_toDigits (n : Nat) : word? (Nat.toDigits 10 n) = some (.natural n) := by
  have ne {c : Char} {rest : List Char} (letter : c.isDigit = false) : Nat.toDigits 10 n ≠ c :: rest :=
    ne_of_digits isDigit_of_mem_toDigits letter
  rw [word?, if_neg (by simpa using ne (by decide)), if_neg (by simpa using ne (by decide)),
    if_neg (by simpa using ne (by decide))]
  simp only [number?, isWhole_toDigits, ↓reduceIte, ofDigits_toDigits]

theorem isWordChar_of_isDigit {c : Char} (digit : c.isDigit = true) : isWordChar c = true := by
  simp [isWordChar, Char.isAlphanum, digit]

/-! ### The tokens of a value -/

namespace Value

/-- Induction over all the values inside a value. -/
@[elab_as_elim]
theorem induction {motive : Value → Prop} (null : motive null) (boolean : ∀ b, motive (boolean b))
    (natural : ∀ n, motive (natural n)) (number : ∀ text, motive (number text)) (string : ∀ text, motive (string text))
    (array : ∀ items, (∀ v ∈ items, motive v) → motive (array items))
    (object : ∀ members, (∀ m ∈ members, motive m.2) → motive (object members)) (v : Value) : motive v :=
  match v with
  | .null => null
  | .boolean b => boolean b
  | .natural n => natural n
  | .number text => number text
  | .string text => string text
  | .array items => array items fun v _ => induction null boolean natural number string array object v
  | .object members => object members fun m _ => induction null boolean natural number string array object m.2
termination_by sizeOf v
decreasing_by
  · rename_i member
    have smaller := List.sizeOf_lt_of_mem member
    rw [Value.array.sizeOf_spec]
    omega
  · rename_i member
    have smaller := List.sizeOf_lt_of_mem member
    have inside : sizeOf m = 1 + sizeOf m.1 + sizeOf m.2 := rfl
    rw [Value.object.sizeOf_spec]
    omega

mutual
/-- The tokens that stand for a value. -/
def tokens : Value → List Token
  | null => [.atom null]
  | boolean b => [.atom (boolean b)]
  | natural n => [.atom (natural n)]
  | number text => [.atom (number text)]
  | string text => [.atom (string text)]
  | array items => .openArray :: (itemTokens items ++ [.closeArray])
  | object members => .openObject :: (memberTokens members ++ [.closeObject])
def itemTokens : List Value → List Token
  | [] => []
  | [v] => tokens v
  | v :: w :: rest => tokens v ++ .comma :: itemTokens (w :: rest)
def memberTokens : List (Option String × Value) → List Token
  | [] => []
  | [(key, v)] => .atom (.string key) :: .colon :: tokens v
  | (key, v) :: m :: rest => .atom (.string key) :: .colon :: (tokens v ++ .comma :: memberTokens (m :: rest))
end

/-- No value begins with a closing bracket, so items are told apart from none. -/
theorem itemTokens_ne_closeArray (v : Value) (more : List Value) (rest others : List Token) :
    itemTokens (v :: more) ++ rest ≠ .closeArray :: others := by
  cases more <;> cases v <;> simp [itemTokens, tokens]

theorem memberTokens_ne_closeObject (m : Option String × Value) (more : List (Option String × Value))
    (rest others : List Token) : memberTokens (m :: more) ++ rest ≠ .closeObject :: others := by
  cases more <;> simp [memberTokens]

/-! ### Reading the tokens of a value -/

/-- The value is read from its tokens, whatever follows them. -/
def IsRead (v : Value) : Prop :=
  ∀ fuel rest, 2 * v.tokens.length ≤ fuel → value? fuel (v.tokens ++ rest) = some (v, rest)

end Value

open Value (IsRead itemTokens memberTokens)

theorem items?_tokens {items : List Value} (some : items ≠ []) (each : ∀ v ∈ items, IsRead v) {fuel : Nat}
    {rest : List Token} (enough : 2 * ((itemTokens items).length + 1) ≤ fuel) :
    items? fuel (itemTokens items ++ .closeArray :: rest) = .some (items, rest) := by
  induction items generalizing fuel with
  | nil => contradiction
  | cons v more ih =>
    obtain ⟨fuel, rfl⟩ : ∃ n, fuel = n + 1 := ⟨fuel - 1, by omega⟩
    have isRead := each v List.mem_cons_self
    cases more with
    | nil =>
      rw [itemTokens] at enough ⊢
      rw [items?, isRead _ _ (by omega)]
      rfl
    | cons w more =>
      rw [itemTokens, List.length_append, List.length_cons] at enough
      have others : items? fuel (itemTokens (w :: more) ++ .closeArray :: rest) = .some (w :: more, rest) :=
        ih (by simp) (fun u member => each u (List.mem_cons_of_mem _ member)) (by omega)
      rw [itemTokens, List.append_assoc, List.cons_append, items?, isRead _ _ (by omega)]
      simp [others]

theorem members?_tokens {members : List (Option String × Value)} (some : members ≠ [])
    (each : ∀ m ∈ members, IsRead m.2) {fuel : Nat} {rest : List Token}
    (enough : 2 * ((memberTokens members).length + 1) ≤ fuel) :
    members? fuel (memberTokens members ++ .closeObject :: rest) = .some (members, rest) := by
  induction members generalizing fuel with
  | nil => contradiction
  | cons m more ih =>
    obtain ⟨key, v⟩ := m
    obtain ⟨fuel, rfl⟩ : ∃ n, fuel = n + 1 := ⟨fuel - 1, by omega⟩
    have isRead : IsRead v := each (key, v) List.mem_cons_self
    cases more with
    | nil =>
      rw [memberTokens, List.length_cons, List.length_cons] at enough
      rw [memberTokens, List.cons_append, List.cons_append, members?, isRead _ _ (by omega)]
      rfl
    | cons other more =>
      rw [memberTokens, List.length_cons, List.length_cons, List.length_append, List.length_cons] at enough
      have others :
          members? fuel (memberTokens (other :: more) ++ .closeObject :: rest) = .some (other :: more, rest) :=
        ih (by simp) (fun u member => each u (List.mem_cons_of_mem _ member)) (by omega)
      rw [memberTokens, List.cons_append, List.cons_append, List.append_assoc, List.cons_append, members?,
        isRead _ _ (by omega)]
      simp [others]

theorem value?_atom {v : Value} (atom : v.tokens = [.atom v]) : IsRead v := by
  intro fuel rest enough
  obtain ⟨fuel, rfl⟩ : ∃ n, fuel = n + 1 := ⟨fuel - 1, by rw [atom, List.length_singleton] at enough; omega⟩
  rw [atom]
  rfl

theorem value?_tokens (v : Value) : IsRead v := by
  induction v using Value.induction with
  | null | boolean | natural | number | string => exact value?_atom rfl
  | array items each =>
    intro fuel rest enough
    rw [Value.tokens, List.length_cons, List.length_append, List.length_singleton] at enough
    obtain ⟨fuel, rfl⟩ : ∃ n, fuel = n + 1 := ⟨fuel - 1, by omega⟩
    cases items with
    | nil => rfl
    | cons v more =>
      have read : items? fuel (itemTokens (v :: more) ++ .closeArray :: rest) = some (v :: more, rest) :=
        items?_tokens (by simp) each (by omega)
      rw [Value.tokens, List.cons_append, List.append_assoc, List.singleton_append, value?, read]
      · rfl
      · exact Value.itemTokens_ne_closeArray v more _
  | object members each =>
    intro fuel rest enough
    rw [Value.tokens, List.length_cons, List.length_append, List.length_singleton] at enough
    obtain ⟨fuel, rfl⟩ : ∃ n, fuel = n + 1 := ⟨fuel - 1, by omega⟩
    cases members with
    | nil => rfl
    | cons m more =>
      have read : members? fuel (memberTokens (m :: more) ++ .closeObject :: rest) = some (m :: more, rest) :=
        members?_tokens (by simp) each (by omega)
      rw [Value.tokens, List.cons_append, List.append_assoc, List.singleton_append, value?, read]
      · rfl
      · exact Value.memberTokens_ne_closeObject m more _

/-! ### The tokens of a text -/

theorem endsWord_cons {c : Char} (outside : isWordChar c = false) (rest : List Char) : EndsWord (c :: rest) := by
  intro d first
  cases first
  exact outside

theorem scan_indent (level : Nat) (rest : List Char) : scan ((indent level).toList ++ rest) = scan rest := by
  rw [indent, String.toList_ofList]
  induction 2 * level with
  | zero => rfl
  | succ n ih => rw [List.replicate_succ, List.cons_append, scan_space (by decide), ih]

theorem scan_stringText (text : Option String) (rest : List Char) :
    scan ((stringText text).toList ++ rest) = (scan rest).map (.atom (.string text) :: ·) := by
  cases text with
  | none =>
    have half : pieces? ('\\' :: 'u' :: 'd' :: '8' :: '0' :: '0' :: '"' :: rest) = some ([.half 0xd800], rest) := rfl
    exact scan_of_first? (first?_string half)
  | some text =>
    have written : (stringText (some text)).toList ++ rest = '"' :: (encode text.toList ++ '"' :: rest) := by
      simp [stringText, quoted]
    rw [written, scan_of_first? (first?_string (pieces?_encode _ _)), join?_map_char]
    simp

theorem scan_mark {c : Char} {t : Token} (mark : mark? c = some t) (rest : List Char) :
    scan (c :: rest) = (scan rest).map (t :: ·) := scan_of_first? (first?_mark mark rest)

theorem scan_word {word : List Char} {v : Value} (read : word? word = some v)
    (inWord : ∀ c ∈ word, isWordChar c = true) {rest : List Char} (ends : EndsWord rest) :
    scan (word ++ rest) = (scan rest).map (.atom v :: ·) := scan_of_first? (first?_word read inWord ends)

namespace Value

/-- Every number in the value is written as a number. -/
inductive IsLegible : Value → Prop
  | null : IsLegible null
  | boolean (b : Bool) : IsLegible (boolean b)
  | natural (n : Nat) : IsLegible (natural n)
  | number {text : String} (read : word? text.toList = some (number text))
    (inWord : ∀ c ∈ text.toList, isWordChar c = true) : IsLegible (number text)
  | string (text : Option String) : IsLegible (string text)
  | array {items : List Value} (each : ∀ v ∈ items, IsLegible v) : IsLegible (array items)
  | object {members : List (Option String × Value)} (each : ∀ m ∈ members, IsLegible m.2) : IsLegible (object members)

/-- The text of the value has its tokens, before those of what follows it. -/
def IsScanned (v : Value) : Prop :=
  ∀ level rest, EndsWord rest → scan ((pretty level v).toList ++ rest) = (scan rest).map (v.tokens ++ ·)

end Value

open Value (IsLegible IsScanned)

theorem scan_prettyItems {items : List Value} (some : items ≠ []) (each : ∀ v ∈ items, IsScanned v) {level : Nat}
    {rest : List Char} (ends : EndsWord rest) :
    scan ((prettyItems level items).toList ++ rest) = (scan rest).map (itemTokens items ++ ·) := by
  induction items with
  | nil => contradiction
  | cons v more ih =>
    have isScanned := each v List.mem_cons_self
    cases more with
    | nil =>
      rw [prettyItems, String.toList_append, List.append_assoc, scan_indent, isScanned _ _ ends]
      rfl
    | cons w more =>
      have others := ih (by simp) fun u member => each u (List.mem_cons_of_mem _ member)
      have written : (prettyItems level (v :: w :: more)).toList ++ rest =
          (indent level).toList ++ ((pretty level v).toList ++
            ',' :: '\n' :: ((prettyItems level (w :: more)).toList ++ rest)) := by
        simp [prettyItems]
      rw [written, scan_indent, isScanned _ _ (endsWord_cons (by decide) _), scan_mark rfl,
        scan_space (by decide), others]
      simp [itemTokens, Function.comp_def]

theorem scan_prettyMembers {members : List (Option String × Value)} (some : members ≠ [])
    (each : ∀ m ∈ members, IsScanned m.2) {level : Nat} {rest : List Char} (ends : EndsWord rest) :
    scan ((prettyMembers level members).toList ++ rest) = (scan rest).map (memberTokens members ++ ·) := by
  induction members with
  | nil => contradiction
  | cons m more ih =>
    obtain ⟨key, v⟩ := m
    have isScanned : IsScanned v := each (key, v) List.mem_cons_self
    have keyed (after : List Char) : scan ((indent level).toList ++ ((stringText key).toList ++ ':' :: ' ' :: after)) =
        (scan after).map fun ts => .atom (.string key) :: .colon :: ts := by
      rw [scan_indent, scan_stringText, scan_mark rfl, scan_space (by decide)]
      simp [Function.comp_def]
    cases more with
    | nil =>
      have written : (prettyMembers level [(key, v)]).toList ++ rest =
          (indent level).toList ++ ((stringText key).toList ++ ':' :: ' ' :: ((pretty level v).toList ++ rest)) := by
        simp [prettyMembers]
      rw [written, keyed, isScanned _ _ ends]
      simp [memberTokens, Function.comp_def]
    | cons other more =>
      have others := ih (by simp) fun u member => each u (List.mem_cons_of_mem _ member)
      have written : (prettyMembers level ((key, v) :: other :: more)).toList ++ rest =
          (indent level).toList ++ ((stringText key).toList ++ ':' :: ' ' :: ((pretty level v).toList ++
            ',' :: '\n' :: ((prettyMembers level (other :: more)).toList ++ rest))) := by
        simp [prettyMembers]
      rw [written, keyed, isScanned _ _ (endsWord_cons (by decide) _), scan_mark rfl,
        scan_space (by decide), others]
      simp [memberTokens, Function.comp_def]

/-- What is indented on lines of its own between two marks. -/
theorem scan_block {opening closing : Char} {first last : Token} (isFirst : mark? opening = some first)
    (isLast : mark? closing = some last) {inner : List Char} {ts : List Token}
    (scanned : ∀ rest, EndsWord rest → scan (inner ++ rest) = (scan rest).map (ts ++ ·)) (level : Nat)
    (rest : List Char) :
    scan (opening :: '\n' :: (inner ++ '\n' :: ((indent level).toList ++ closing :: rest))) =
      (scan rest).map (first :: (ts ++ [last]) ++ ·) := by
  rw [scan_mark isFirst, scan_space (by decide), scanned _ (endsWord_cons (by decide) _), scan_space (by decide),
    scan_indent, scan_mark isLast]
  simp [Function.comp_def]

theorem scan_pretty {v : Value} (legible : IsLegible v) : IsScanned v := by
  induction legible with
  | null =>
    intro level rest ends
    have letters : (pretty level .null).toList = ['n', 'u', 'l', 'l'] := by rw [pretty]; rfl
    rw [letters]
    exact scan_word rfl (by simp [isWordChar]) ends
  | boolean b =>
    intro level rest ends
    cases b with
    | false =>
      have letters : (pretty level (.boolean false)).toList = ['f', 'a', 'l', 's', 'e'] := by rw [pretty]; rfl
      rw [letters]
      exact scan_word rfl (by simp [isWordChar]) ends
    | true =>
      have letters : (pretty level (.boolean true)).toList = ['t', 'r', 'u', 'e'] := by rw [pretty]; rfl
      rw [letters]
      exact scan_word rfl (by simp [isWordChar]) ends
  | natural n =>
    intro level rest ends
    rw [pretty, Nat.toList_repr]
    exact scan_word (word?_toDigits n) (fun c member => isWordChar_of_isDigit (isDigit_of_mem_toDigits c member)) ends
  | number read inWord =>
    intro level rest ends
    rw [pretty]
    exact scan_word read inWord ends
  | string text => exact fun level rest _ => scan_stringText text rest
  | @array items _ each =>
    intro level rest ends
    cases items with
    | nil =>
      have written : (pretty level (.array [])).toList ++ rest = '[' :: ']' :: rest := by simp [pretty]
      rw [written, scan_mark rfl, scan_mark rfl]
      simp [Value.tokens, itemTokens, Function.comp_def]
    | cons v more =>
      have written : (pretty level (.array (v :: more))).toList ++ rest =
          '[' :: '\n' :: ((prettyItems (level + 1) (v :: more)).toList ++
            '\n' :: ((indent level).toList ++ ']' :: rest)) := by
        simp [pretty]
      rw [written, Value.tokens]
      exact scan_block rfl rfl (fun _ ends => scan_prettyItems (by simp) each ends) level rest
  | @object members _ each =>
    intro level rest ends
    cases members with
    | nil =>
      have written : (pretty level (.object [])).toList ++ rest = '\x7b' :: '\x7d' :: rest := by simp [pretty]
      rw [written, scan_mark rfl, scan_mark rfl]
      simp [Value.tokens, memberTokens, Function.comp_def]
    | cons m more =>
      have written : (pretty level (.object (m :: more))).toList ++ rest =
          '\x7b' :: '\n' :: ((prettyMembers (level + 1) (m :: more)).toList ++
            '\n' :: ((indent level).toList ++ '\x7d' :: rest)) := by
        simp [pretty]
      rw [written, Value.tokens]
      exact scan_block rfl rfl (fun _ ends => scan_prettyMembers (by simp) each ends) level rest

theorem scan_spaces {space : List Char} (isSpaces : ∀ c ∈ space, isSpace c = true) : scan space = some [] := by
  induction space with
  | nil => rfl
  | cons c space ih =>
    rw [scan_space (isSpaces c List.mem_cons_self)]
    exact ih fun d member => isSpaces d (List.mem_cons_of_mem _ member)

theorem endsWord_spaces {space : List Char} (isSpaces : ∀ c ∈ space, isSpace c = true) : EndsWord space := by
  intro c first
  rcases isSpace_iff.mp (isSpaces c (List.mem_of_mem_head? first)) with rfl | rfl | rfl | rfl <;> rfl

/-- A value is read back from its text, whatever white space is after it. -/
theorem parse?_pretty {v : Value} (legible : IsLegible v) {space : String}
    (isSpaces : ∀ c ∈ space.toList, isSpace c = true) : parse? (pretty 0 v ++ space) = some v := by
  have scanned : scan (pretty 0 v ++ space).toList = some v.tokens := by
    rw [String.toList_append, scan_pretty legible 0 _ (endsWord_spaces isSpaces), scan_spaces isSpaces]
    simp
  have read : value? (2 * v.tokens.length + 1) v.tokens = some (v, []) := by
    simpa using value?_tokens v (2 * v.tokens.length + 1) [] (by omega)
  rw [parse?]
  change (scan (pretty 0 v ++ space).toList).bind _ = _
  rw [scanned]
  simp [read]

end CallSieve.Json
