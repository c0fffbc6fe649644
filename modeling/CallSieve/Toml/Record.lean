import CallSieve.Toml.Document

/-!
Typed fields of tables. The entries of a record are read in the order of the
document, so the first bad one decides the error; that a field is missing is
noticed at the end. An array may stand for a record, with the values of its
fields in their fixed order.
-/

namespace CallSieve.Toml

/-- Why a value is not of the form asked for. -/
inductive FieldError where
  | missing (name : String)
  | unknownVariant (found : String) (expected : List String)
  | malformed
  deriving DecidableEq, Repr

inductive Error where
  | illFormed
  | field (e : FieldError)
  deriving DecidableEq, Repr

def backquoted (name : String) : String := "`" ++ name ++ "`"

/-- What is known of an error beyond its being one. -/
def Error.detail? : Error → Option String
  | .field (.missing name) => some ("missing field " ++ backquoted name)
  | .field (.unknownVariant found expected) =>
    some ("unknown variant " ++ backquoted found ++ ", expected one of "
      ++ ", ".intercalate (expected.map backquoted))
  | .field .malformed => none
  | .illFormed => none

def Error.message (e : Error) : String := "TOML parse error: " ++ e.detail?.getD "malformed document"

namespace Value

def asString : Value → Except FieldError String
  | string text => .ok text
  | _ => .error .malformed

def asBoolean : Value → Except FieldError Bool
  | boolean b => .ok b
  | _ => .error .malformed

/-- A number of 32 bits without a sign. -/
def asWord : Value → Except FieldError UInt32
  | integer n => if 0 ≤ n && n < UInt32.size then .ok (UInt32.ofNat n.toNat) else .error .malformed
  | _ => .error .malformed

def asList {α : Type} (item : Value → Except FieldError α) : Value → Except FieldError (List α)
  | array items => items.mapM item
  | _ => .error .malformed

def asStrings (v : Value) : Except FieldError (List String) := v.asList asString

/-- One of several variants, by its written form. A table of one empty entry
    may stand for the key of that entry. -/
def asVariant {α : Type} (render : α → String) (all : List α) : Value → Except FieldError α
  | string text => pick text
  | table [(key, body)] => do
    let a ← pick key
    match body with
    | table [] | array [] => .ok a
    | _ => .error .malformed
  | _ => .error .malformed
where
  pick (text : String) : Except FieldError α :=
    match all.find? (render · == text) with
    | some a => .ok a
    | none => .error (.unknownVariant text (all.map render))

end Value

/-- The entries of a record, and whether its fields are named. -/
structure Record where
  entries : List (String × Value)
  isNamed : Bool

/-- The record of a value, given the names of its fields in order. A moment is a
    record that has none of them. -/
def Value.asRecord (fields : List String) : Value → Except FieldError Record
  | table entries => .ok ⟨entries, true⟩
  | array items => .ok ⟨fields.zip items, false⟩
  | moment _ => .ok ⟨[], true⟩
  | _ => .error .malformed

/-- Sets the fields of `start`, entry after entry. -/
def Record.read {α : Type} (r : Record) (start : α) (set : α → String → Value → Except FieldError α) :
    Except FieldError α :=
  r.entries.foldlM (fun a (key, v) => set a key v) start

def Record.require (r : Record) (field : String) : Except FieldError Unit :=
  if r.entries.any fun (key, _) => key == field then .ok ()
  else .error (if r.isNamed then .missing field else .malformed)

/-- Reads the top-level entries of a text. -/
def readText {α : Type} (text : String) (read : Record → Except FieldError α) : Except Error α :=
  match parse? text with
  | some entries => (read ⟨entries, true⟩).mapError .field
  | none => .error .illFormed

end CallSieve.Toml
