import CallSieve.Toml.Text
import CallSieve.Toml.Value

namespace CallSieve.Toml

/-- The digits of a word whose digits may have single underscores between them. -/
def ungroup? (isDigit : Char → Bool) : List Char → Option (List Char)
  | [] => none
  | [c] => if isDigit c then some [c] else none
  | c :: '_' :: rest => if isDigit c then (ungroup? isDigit rest).map (c :: ·) else none
  | c :: rest => if isDigit c then (ungroup? isDigit rest).map (c :: ·) else none

def ofDigits (base : Nat) (digits : List Char) : Nat :=
  digits.foldl (fun n c => base * n + (Text.hexDigit? c).getD 0) 0

def isDigitIn (base : Nat) (c : Char) : Bool := (Text.hexDigit? c).any (· < base)

/-- Decimal digits without a leading zero. -/
def decimal? (word : List Char) : Option (List Char) := do
  let digits ← ungroup? (isDigitIn 10) word
  if digits.head? == some '0' && digits.length != 1 then none else some digits

/-- Integers are at or above the negative of this bound, and below it. -/
def integerBound : Nat := 0x8000000000000000

def based? (base : Nat) (word : List Char) : Option Int := do
  let n := ofDigits base (← ungroup? (isDigitIn base) word)
  if n < integerBound then some n else none

def integer? : List Char → Option Int
  | '0' :: 'x' :: word => based? 16 word
  | '0' :: 'o' :: word => based? 8 word
  | '0' :: 'b' :: word => based? 2 word
  | '-' :: word => do
    let n := ofDigits 10 (← decimal? word)
    if n ≤ integerBound then some (-n) else none
  | '+' :: word => unsigned? word
  | word => unsigned? word
where
  unsigned? (word : List Char) : Option Int := do
    let n := ofDigits 10 (← decimal? word)
    if n < integerBound then some n else none

def unsign : List Char → Bool × List Char
  | '-' :: rest => (true, rest)
  | '+' :: rest => (false, rest)
  | word => (false, word)

/-- The exponent after its letter. -/
def exponent? (word : List Char) : Option Int := do
  let (negative, word) := unsign word
  let n := ofDigits 10 (← ungroup? (isDigitIn 10) word)
  some (if negative then -n else n)

/-- Whether a mantissa times ten to an exponent rounds past the largest double:
    it does from half a unit above it on. -/
def overflowsDouble (mantissa : Nat) (exponent : Int) : Bool :=
  let bound := Nat.pow 2 1024 - Nat.pow 2 970
  let digits := (Nat.toDigits 10 mantissa).length
  if mantissa == 0 || digits + exponent < 300 then false
  else if digits + exponent > 310 then true
  else if exponent < 0 then bound * Nat.pow 10 (-exponent).toNat ≤ mantissa
  else bound ≤ mantissa * Nat.pow 10 exponent.toNat

/-- A decimal number with a fraction or an exponent or both, not so large as to
    become infinite, or one of the special values. -/
def isFloat (word : List Char) : Bool :=
  let (negative, word) := unsign word
  if word == ['i', 'n', 'f'] || word == ['n', 'a', 'n'] then true
  else
    let (whole, rest) := word.span fun c => isDigitIn 10 c || c == '_'
    let parts : Option (List Char × List Char × Int) := do
      let whole ← decimal? whole
      match rest with
      | '.' :: rest =>
        let (fraction, rest) := rest.span fun c => isDigitIn 10 c || c == '_'
        let fraction ← ungroup? (isDigitIn 10) fraction
        match rest with
        | [] => some (whole, fraction, 0)
        | e :: rest => if e == 'e' || e == 'E' then some (whole, fraction, ← exponent? rest) else none
      | e :: rest => if e == 'e' || e == 'E' then some (whole, [], ← exponent? rest) else none
      | [] => none
    match parts with
    | some (whole, fraction, exponent) =>
      negative || !overflowsDouble (ofDigits 10 (whole ++ fraction)) (exponent - fraction.length)
    | none => false

/-- Two digits, as a number within bounds. -/
def twoDigits? (low high : Nat) : List Char → Option (Nat × List Char)
  | a :: b :: rest =>
    let n := ofDigits 10 [a, b]
    if isDigitIn 10 a && isDigitIn 10 b && low ≤ n && n ≤ high then some (n, rest) else none
  | _ => none

def isLeapYear (year : Nat) : Bool := year % 4 == 0 && (year % 100 != 0 || year % 400 == 0)

def daysIn (year month : Nat) : Nat :=
  if month == 2 then if isLeapYear year then 29 else 28
  else if [4, 6, 9, 11].contains month then 30
  else 31

def afterDate? : List Char → Option (List Char)
  | a :: b :: c :: d :: '-' :: rest => do
    let digits := [a, b, c, d]
    if !digits.all (isDigitIn 10) then none
    let (month, rest) ← twoDigits? 1 12 rest
    match rest with
    | '-' :: rest => do
      let (_, rest) ← twoDigits? 1 (daysIn (ofDigits 10 digits) month) rest
      some rest
    | _ => none
  | _ => none

/-- What follows a time of day. A minute may have a leap second. -/
def afterTime? (word : List Char) : Option (List Char) := do
  let (_, rest) ← twoDigits? 0 23 word
  let rest ← after ':' rest
  let (_, rest) ← twoDigits? 0 59 rest
  let rest ← after ':' rest
  let (_, rest) ← twoDigits? 0 60 rest
  match rest with
  | '.' :: rest =>
    let (fraction, rest) := rest.span (isDigitIn 10)
    if fraction.isEmpty then none else some rest
  | _ => some rest
where
  after (c : Char) : List Char → Option (List Char)
    | d :: rest => if c == d then some rest else none
    | [] => none

/-- Nothing, or exactly an offset from universal time. -/
def isOffset : List Char → Bool
  | [] => true
  | ['Z'] => true
  | ['z'] => true
  | sign :: rest =>
    match twoDigits? 0 23 rest with
    | some (_, ':' :: rest) => (sign == '+' || sign == '-') && (twoDigits? 0 59 rest).any fun (_, rest) => rest.isEmpty
    | _ => false

def isZonedTime (word : List Char) : Bool := (afterTime? word).any isOffset

/-- A date, a time, or both with a letter between them. -/
def isMoment (word : List Char) : Bool :=
  match afterDate? word with
  | some [] => true
  | some (t :: rest) => (t == 'T' || t == 't') && isZonedTime rest
  | none => (afterTime? word).any (·.isEmpty)

/-- What a word consists of: all but blanks, newlines and the marks that may follow a value. -/
def isWordChar (c : Char) : Bool := !(isBlank c || ['\n', '\r', ',', ']', '\x7d', '#'].contains c)

def wordValue? (word : List Char) : Option Value :=
  if word == ['t', 'r', 'u', 'e'] then some (.boolean true)
  else if word == ['f', 'a', 'l', 's', 'e'] then some (.boolean false)
  else match integer? word with
    | some n => some (.integer n)
    | none =>
      if isFloat word then some (.float (String.ofList word))
      else if isMoment word then some (.moment (String.ofList word))
      else none

/-- A scalar that is no string. One blank may stand between a date and a time. -/
def scalar? (cs : List Char) : Option (Rest Value) :=
  let (word, rest) := cs.span isWordChar
  match afterDate? word, rest with
  | some [], ' ' :: more =>
    let (time, after) := more.span isWordChar
    if isZonedTime time then some (.moment (String.ofList (word ++ ' ' :: time)), after)
    else (wordValue? word).map (·, rest)
  | _, _ => (wordValue? word).map (·, rest)

end CallSieve.Toml
