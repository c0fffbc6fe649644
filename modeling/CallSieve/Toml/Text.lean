import CallSieve.Text.Hexadecimal

namespace CallSieve.Toml

def isBlank (c : Char) : Bool := c == ' ' || c == '\t'

/-- What may stand in comments and strings: no control characters but tabs. -/
def isTextChar (c : Char) : Bool := c == '\t' || (0x20 ≤ c.toNat && c.toNat != 0x7F)

def skipBlanks (cs : List Char) : List Char := cs.dropWhile isBlank

/-- What follows the newline at the start, if there is one. -/
def afterNewline? : List Char → Option (List Char)
  | '\n' :: rest => some rest
  | '\r' :: '\n' :: rest => some rest
  | _ => none

/-- What follows the comment at the start, if there is one. -/
def skipComment : List Char → List Char
  | '#' :: rest => rest.dropWhile isTextChar
  | cs => cs

/-- What follows the line, of which nothing but blanks and a comment may be left. -/
def afterLine? (cs : List Char) : Option (List Char) :=
  match skipComment (skipBlanks cs) with
  | [] => some []
  | rest => afterNewline? rest

mutual
/-- Skips blanks, newlines and comments. -/
def skipSpace : List Char → List Char
  | ' ' :: rest => skipSpace rest
  | '\t' :: rest => skipSpace rest
  | '\n' :: rest => skipSpace rest
  | '\r' :: '\n' :: rest => skipSpace rest
  | '#' :: rest => skipSpaceInComment rest
  | cs => cs
/-- Skips the rest of a comment, and what follows it. -/
def skipSpaceInComment : List Char → List Char
  | '\n' :: rest => skipSpace rest
  | '\r' :: '\n' :: rest => skipSpace rest
  | c :: rest => if isTextChar c then skipSpaceInComment rest else c :: rest
  | [] => []
end

/-- The character of a code point in hexadecimal, if there is one. -/
def codePoint? (digits : List Char) : Option Char := do
  let n ← Text.hexNumber? digits
  if n.isValidChar then some (Char.ofNat n) else none

def escaped? : Char → Option Char
  | 'b' => some '\x08'
  | 't' => some '\t'
  | 'n' => some '\n'
  | 'f' => some '\x0c'
  | 'r' => some '\r'
  | '"' => some '"'
  | '\\' => some '\\'
  | _ => none

abbrev Rest (α : Type) := α × List Char

/-- One more character in front of what is read. -/
def consChar (c : Char) (r : Option (Rest (List Char))) : Option (Rest (List Char)) :=
  r.map fun (text, rest) => (c :: text, rest)

def basicBody : List Char → Option (Rest (List Char))
  | '"' :: rest => some ([], rest)
  | '\\' :: 'u' :: a :: b :: c :: d :: rest => do consChar (← codePoint? [a, b, c, d]) (basicBody rest)
  | '\\' :: 'U' :: a :: b :: c :: d :: e :: f :: g :: h :: rest => do
    consChar (← codePoint? [a, b, c, d, e, f, g, h]) (basicBody rest)
  | '\\' :: c :: rest => do consChar (← escaped? c) (basicBody rest)
  | c :: rest => if isTextChar c then consChar c (basicBody rest) else none
  | [] => none

/-- A string with escapes over several lines, up to its closing quotes, before
    which two more may stand. A backslash at the end of a line takes away all
    blanks and newlines after it. -/
def multilineBody (trimming : Bool) : List Char → Option (Rest (List Char))
  | '"' :: '"' :: '"' :: '"' :: '"' :: rest => some (['"', '"'], rest)
  | '"' :: '"' :: '"' :: '"' :: rest => some (['"'], rest)
  | '"' :: '"' :: '"' :: rest => some ([], rest)
  | '\n' :: rest => if trimming then multilineBody true rest else consChar '\n' (multilineBody false rest)
  | '\r' :: '\n' :: rest =>
    if trimming then multilineBody true rest else consChar '\n' (multilineBody false rest)
  | '\\' :: 'u' :: a :: b :: c :: d :: rest => do
    consChar (← codePoint? [a, b, c, d]) (multilineBody false rest)
  | '\\' :: 'U' :: a :: b :: c :: d :: e :: f :: g :: h :: rest => do
    consChar (← codePoint? [a, b, c, d, e, f, g, h]) (multilineBody false rest)
  | '\\' :: c :: rest =>
    match escaped? c with
    | some e => consChar e (multilineBody false rest)
    | none => if (afterNewline? (skipBlanks (c :: rest))).isSome then multilineBody true (c :: rest) else none
  | c :: rest =>
    if trimming && isBlank c then multilineBody true rest
    else if isTextChar c then consChar c (multilineBody false rest)
    else none
  | [] => none

def literalBody : List Char → Option (Rest (List Char))
  | '\'' :: rest => some ([], rest)
  | c :: rest => if isTextChar c then consChar c (literalBody rest) else none
  | [] => none

/-- A string without escapes over several lines, up to its closing quotes,
    before which two more may stand. -/
def multilineLiteralBody : List Char → Option (Rest (List Char))
  | '\'' :: '\'' :: '\'' :: '\'' :: '\'' :: rest => some (['\'', '\''], rest)
  | '\'' :: '\'' :: '\'' :: '\'' :: rest => some (['\''], rest)
  | '\'' :: '\'' :: '\'' :: rest => some ([], rest)
  | '\n' :: rest => consChar '\n' (multilineLiteralBody rest)
  | '\r' :: '\n' :: rest => consChar '\n' (multilineLiteralBody rest)
  | c :: rest => if isTextChar c then consChar c (multilineLiteralBody rest) else none
  | [] => none

/-- The characters after a newline at the start, or all of them. -/
def withoutNewline (cs : List Char) : List Char := (afterNewline? cs).getD cs

def string? (cs : List Char) : Option (Rest String) :=
  let body := match cs with
    | '"' :: '"' :: '"' :: rest => multilineBody false (withoutNewline rest)
    | '"' :: rest => basicBody rest
    | '\'' :: '\'' :: '\'' :: rest => multilineLiteralBody (withoutNewline rest)
    | '\'' :: rest => literalBody rest
    | _ => none
  body.map fun (text, rest) => (String.ofList text, rest)

def isBareChar (c : Char) : Bool := c.isAlphanum || c == '_' || c == '-'

/-- One part of a key: a string on one line, or bare. -/
def simpleKey? (cs : List Char) : Option (Rest String) :=
  let body := match cs with
    | '"' :: rest => basicBody rest
    | '\'' :: rest => literalBody rest
    | _ =>
      let (bare, rest) := cs.span isBareChar
      if bare.isEmpty then none else some (bare, rest)
  body.map fun (text, rest) => (String.ofList text, rest)

/-- The most parts a key may have, and the most levels of nesting. -/
def depthLimit : Nat := 79

/-- A key with dots between its parts and blanks around them. -/
def key? : Nat → List Char → Option (Rest (List String))
  | 0, _ => none
  | parts + 1, cs => do
    let (part, rest) ← simpleKey? (skipBlanks cs)
    match skipBlanks rest with
    | '.' :: rest => (key? parts rest).map fun (more, rest) => (part :: more, rest)
    | rest => some ([part], rest)

end CallSieve.Toml
