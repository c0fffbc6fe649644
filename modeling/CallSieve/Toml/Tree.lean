import CallSieve.Toml.Value

/-!
A document defines its tables piece by piece, and each piece may only add to
tables that are still open to it. What is open is decided by how a table came
to be: by its own header, as a step of the header of another, or as a step of a
dotted key.
-/

namespace CallSieve.Toml

inductive Origin where
  | header
  | implied
  | dotted
  deriving DecidableEq, Repr

/-- A node of a document under construction. Inline tables are values, closed
    to all later pieces. -/
inductive Node where
  | value (v : Value)
  | table (origin : Origin) (entries : List (String × Node))
  /-- The elements of an array of tables; the last one is open. -/
  | tables (elements : List (List (String × Node)))

namespace Node

/-- The entries of a table under construction. -/
abbrev Entries := List (String × Node)

def replace (key : String) (n : Node) (es : Entries) : Entries :=
  es.map fun (k, old) => if k == key then (k, n) else (k, old)

def remove (key : String) (es : Entries) : Entries := es.filter fun (k, _) => k != key

def inLast (f : Entries → Option Entries) (elements : List Entries) : Option (List Entries) :=
  match elements.getLast? with
  | some last => (f last).map fun changed => elements.dropLast ++ [changed]
  | none => none

/-- Gives a value to a dotted key. The key must be new, and the table that it
    goes into must be that of the key alone or one that dotted keys made;
    tables on the way must not have a header of their own. -/
def assign (v : Value) : List String → Entries → Option Entries
  | [], _ => none
  | [key], es => if (es.lookup key).isNone then some (es ++ [(key, .value v)]) else none
  | key :: more, es =>
    match es.lookup key with
    | none => (assign v more []).map fun sub => es ++ [(key, .table .dotted sub)]
    | some (.table .dotted sub) => (assign v more sub).map fun sub => replace key (.table .dotted sub) es
    | some (.table .implied sub) =>
      if 1 < more.length then (assign v more sub).map fun sub => replace key (.table .implied sub) es else none
    | some (.tables elements) =>
      if 1 < more.length then
        (inLast (assign v more) elements).map fun elements => replace key (.tables elements) es
      else none
    | some (.table .header _) | some (.value _) => none

/-- Changes the entries below a path of tables, making those that are missing. -/
def under (f : Entries → Option Entries) : List String → Entries → Option Entries
  | [], es => f es
  | key :: more, es =>
    match es.lookup key with
    | none => (under f more []).map fun sub => es ++ [(key, .table .implied sub)]
    | some (.table origin sub) => (under f more sub).map fun sub => replace key (.table origin sub) es
    | some (.tables elements) =>
      (inLast (under f more) elements).map fun elements => replace key (.tables elements) es
    | some (.value _) => none

/-- Opens the table of a header. It must be new, or so far only implied. -/
def openTable (key : String) (es : Entries) : Option Entries :=
  match es.lookup key with
  | none => some (es ++ [(key, .table .header [])])
  | some (.table .implied sub) => some (remove key es ++ [(key, .table .header sub)])
  | some _ => none

/-- Opens a new element of an array of tables. -/
def openElement (key : String) (es : Entries) : Option Entries :=
  match es.lookup key with
  | none => some (es ++ [(key, .tables [[]])])
  | some (.tables elements) => some (replace key (.tables (elements ++ [[]])) es)
  | some _ => none

mutual
def toValue : Node → Value
  | value v => v
  | table _ es => .table (toEntries es)
  | tables elements => .array (toTables elements)
def toEntries : List (String × Node) → List (String × Value)
  | [] => []
  | (key, n) :: rest => (key, toValue n) :: toEntries rest
def toTables : List (List (String × Node)) → List Value
  | [] => []
  | es :: rest => .table (toEntries es) :: toTables rest
end

end Node

/-- The value of an inline table, given its keys and values. -/
def inlineTable? (pairs : List (List String × Value)) : Option Value :=
  (pairs.foldlM (fun es (path, v) => Node.assign v path es) []).map fun es => .table (Node.toEntries es)

end CallSieve.Toml
