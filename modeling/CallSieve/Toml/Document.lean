import CallSieve.Toml.Scalar
import CallSieve.Toml.Tree

namespace CallSieve.Toml

/-- Items up to the closing bracket, with commas between them and space
    anywhere. A comma may follow the last one. -/
def items? (item : List Char → Option (Rest Value)) : Nat → List Char → Option (Rest (List Value))
  | 0, _ => none
  | fuel + 1, cs =>
    match skipSpace cs with
    | ']' :: rest => some ([], rest)
    | cs => do
      let (v, rest) ← item cs
      match skipSpace rest with
      | ']' :: rest => some ([v], rest)
      | ',' :: rest => (items? item fuel rest).map fun (vs, rest) => (v :: vs, rest)
      | _ => none

/-- A key and its value, on one line. -/
def pair? (item : List Char → Option (Rest Value)) (cs : List Char) : Option (Rest (List String × Value)) := do
  let (path, rest) ← key? depthLimit cs
  match rest with
  | '=' :: rest => (item (skipBlanks rest)).map fun (v, rest) => ((path, v), rest)
  | _ => none

/-- Pairs up to the closing brace, with commas between them. -/
def pairs? (item : List Char → Option (Rest Value)) : Nat → List Char → Option (Rest (List (List String × Value)))
  | 0, _ => none
  | fuel + 1, cs => do
    let (p, rest) ← pair? item cs
    match skipBlanks rest with
    | '\x7d' :: rest => some ([p], rest)
    | ',' :: rest => (pairs? item fuel rest).map fun (ps, rest) => (p :: ps, rest)
    | _ => none

/-- A value with so many levels of nesting at most. -/
def value? (levels : Nat) (cs : List Char) : Option (Rest Value) :=
  match levels, cs with
  | levels + 1, '[' :: rest => (items? (value? levels) cs.length rest).map fun (vs, rest) => (.array vs, rest)
  | levels + 1, '\x7b' :: rest =>
    match skipBlanks rest with
    | '\x7d' :: rest => some (.table [], rest)
    | rest => do
      let (pairs, rest) ← pairs? (value? levels) cs.length rest
      some (← inlineTable? pairs, rest)
  | _, '"' :: _ | _, '\'' :: _ => (string? cs).map fun (text, rest) => (.string text, rest)
  | _, _ => scalar? cs

inductive Statement where
  /-- A key of the current table. -/
  | assign (path : List String) (v : Value)
  /-- The header of a table, which becomes the current one. -/
  | table (path : List String)
  /-- The header of an element of an array of tables. -/
  | element (path : List String)

/-- The statement at the start of a line, and what follows its line. -/
def statement? (cs : List Char) : Option (Rest Statement) :=
  match cs with
  | '[' :: '[' :: rest => do
    let (path, rest) ← key? depthLimit rest
    match rest with
    | ']' :: ']' :: rest => (afterLine? rest).map (.element path, ·)
    | _ => none
  | '[' :: rest => do
    let (path, rest) ← key? depthLimit rest
    match rest with
    | ']' :: rest => (afterLine? rest).map (.table path, ·)
    | _ => none
  | _ => do
    let ((path, v), rest) ← pair? (value? depthLimit) cs
    (afterLine? rest).map (.assign path v, ·)

/-- The statements of a text, of which blank lines are no part. -/
def statements? : Nat → List Char → Option (List Statement)
  | 0, _ => none
  | _ + 1, [] => some []
  | fuel + 1, cs =>
    match afterLine? cs with
    | some rest => statements? fuel rest
    | none => do
      let (s, rest) ← statement? (skipBlanks cs)
      (statements? fuel rest).map (s :: ·)

/-- The root table so far, and the path of the current table. -/
structure Document where
  root : Node.Entries
  current : List String

/-- Does something to the entry of a header's last part, below the others. -/
def Document.header (d : Document) (openEntry : String → Node.Entries → Option Node.Entries) (path : List String) :
    Option Document := do
  let key ← path.getLast?
  let root ← Node.under (openEntry key) path.dropLast d.root
  some ⟨root, path⟩

def Document.carryOut (d : Document) : Statement → Option Document
  | .assign path v => (Node.under (Node.assign v path) d.current d.root).map fun root => { d with root }
  | .table path => d.header Node.openTable path
  | .element path => d.header Node.openElement path

def parse? (text : String) : Option (List (String × Value)) := do
  let cs := match text.toList with
    | '\uFEFF' :: rest => rest
    | cs => cs
  let statements ← statements? (cs.length + 1) cs
  let d ← statements.foldlM Document.carryOut ⟨[], []⟩
  some (Node.toEntries d.root)

end CallSieve.Toml
