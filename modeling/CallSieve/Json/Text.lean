import CallSieve.Text.Hexadecimal

namespace CallSieve.Json

/-- A control character by its number. -/
def unicodeEscape (c : Char) : List Char :=
  ['\\', 'u', '0', '0', Nat.digitChar (c.toNat / 16), Nat.digitChar (c.toNat % 16)]

def encodeChar (c : Char) : List Char :=
  if c = '"' then ['\\', '"']
  else if c = '\\' then ['\\', '\\']
  else if c = '\x08' then ['\\', 'b']
  else if c = '\x0c' then ['\\', 'f']
  else if c = '\n' then ['\\', 'n']
  else if c = '\r' then ['\\', 'r']
  else if c = '\t' then ['\\', 't']
  else if c.toNat < 0x20 then unicodeEscape c
  else [c]

def encode (text : List Char) : List Char := text.flatMap encodeChar

def quoted (text : String) : String := "\"" ++ String.ofList (encode text.toList) ++ "\""

/-- What one character or escape of a string stands for. -/
inductive Piece where
  | char (c : Char)
  | half (unit : Nat)
  deriving DecidableEq, Repr

/-- What four digits stand for. -/
def Piece.ofDigits? (digits : List Char) : Option Piece :=
  (Text.hexNumber? digits).map fun n => if n.isValidChar then char (Char.ofNat n) else half n

/-- What one letter after a backslash stands for. -/
def escaped? : Char → Option Char
  | '"' => some '"'
  | '\\' => some '\\'
  | '/' => some '/'
  | 'b' => some '\x08'
  | 'f' => some '\x0c'
  | 'n' => some '\n'
  | 'r' => some '\r'
  | 't' => some '\t'
  | _ => none

/-- The pieces up to the closing quote, and what follows it. -/
def pieces? : List Char → Option (List Piece × List Char)
  | '"' :: rest => some ([], rest)
  | '\\' :: 'u' :: a :: b :: c :: d :: rest => do
    let p ← Piece.ofDigits? [a, b, c, d]
    (pieces? rest).map fun (ps, rest) => (p :: ps, rest)
  | '\\' :: c :: rest => do
    let e ← escaped? c
    (pieces? rest).map fun (ps, rest) => (.char e :: ps, rest)
  | c :: rest =>
    if c.toNat < 0x20 then none else (pieces? rest).map fun (ps, rest) => (.char c :: ps, rest)
  | [] => none

/-- The text of pieces. Halves have to come in pairs, high and low. -/
def join? : List Piece → Option (List Char)
  | [] => some []
  | .char c :: rest => (join? rest).map (c :: ·)
  | .half high :: .half low :: rest =>
    if high < 0xDC00 && 0xDC00 ≤ low then
      (join? rest).map (Char.ofNat (0x10000 + (high - 0xD800) * 0x400 + (low - 0xDC00)) :: ·)
    else none
  | .half _ :: _ => none

end CallSieve.Json
