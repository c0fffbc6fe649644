import CallSieve.Json.Text
import CallSieve.Json.Value

namespace CallSieve.Json

/-- The marks of the grammar, and the values that are one word. -/
inductive Token where
  | openArray
  | closeArray
  | openObject
  | closeObject
  | comma
  | colon
  | atom (v : Value)

def isSpace (c : Char) : Bool := c == ' ' || c == '\t' || c == '\n' || c == '\r'

def mark? : Char → Option Token
  | '[' => some .openArray
  | ']' => some .closeArray
  | '\x7b' => some .openObject
  | '\x7d' => some .closeObject
  | ',' => some .comma
  | ':' => some .colon
  | _ => none

/-- What names and numbers consist of. -/
def isWordChar (c : Char) : Bool := c.isAlphanum || c == '+' || c == '-' || c == '.'

/-- Digits without a leading zero. -/
def isWhole (digits : List Char) : Bool :=
  !digits.isEmpty && digits.all Char.isDigit && (digits.head? != some '0' || digits.length == 1)

/-- Nothing, or an exponent. -/
def isExponent : List Char → Bool
  | [] => true
  | e :: rest =>
    let digits := match rest with
      | '+' :: digits | '-' :: digits => digits
      | digits => digits
    (e == 'e' || e == 'E') && !digits.isEmpty && digits.all Char.isDigit

/-- Nothing, or a fraction or an exponent or both. -/
def isFractionOrExponent : List Char → Bool
  | '.' :: rest => !(rest.takeWhile Char.isDigit).isEmpty && isExponent (rest.dropWhile Char.isDigit)
  | rest => isExponent rest

def ofDigits (digits : List Char) : Nat := digits.foldl (fun n c => 10 * n + (c.toNat - '0'.toNat)) 0

def number? (word : List Char) : Option Value :=
  let unsigned := match word with
    | '-' :: rest => rest
    | _ => word
  if isWhole word then some (.natural (ofDigits word))
  else if isWhole (unsigned.takeWhile Char.isDigit) && isFractionOrExponent (unsigned.dropWhile Char.isDigit) then
    some (.number (String.ofList word))
  else none

def word? (word : List Char) : Option Value :=
  if word == ['n', 'u', 'l', 'l'] then some .null
  else if word == ['t', 'r', 'u', 'e'] then some (.boolean true)
  else if word == ['f', 'a', 'l', 's', 'e'] then some (.boolean false)
  else number? word

/-- The tokens of a text, of which space is no part. -/
def tokens? : Nat → List Char → Option (List Token)
  | 0, _ => none
  | _ + 1, [] => some []
  | fuel + 1, c :: rest =>
    if isSpace c then tokens? fuel rest
    else match mark? c with
      | some t => (tokens? fuel rest).map (t :: ·)
      | none =>
        if c = '"' then do
          let (ps, rest) ← pieces? rest
          (tokens? fuel rest).map (.atom (.string ((join? ps).map String.ofList)) :: ·)
        else do
          let v ← word? ((c :: rest).takeWhile isWordChar)
          (tokens? fuel ((c :: rest).dropWhile isWordChar)).map (.atom v :: ·)

end CallSieve.Json
