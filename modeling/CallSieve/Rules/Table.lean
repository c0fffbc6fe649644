import CallSieve.Group
import CallSieve.Matcher.Clause
import CallSieve.Toml.Record

namespace CallSieve

structure MatcherTable where
  id : String
  types : List String := []
  subtypes : List String := []
  anyType : Bool := false
  names : List String := []
  nameStart : Option String := none
  anyName : Bool := false
  constructors : Bool := false
  /-- Whole signatures. An empty list of them asks for no parameters. -/
  parameters : Option (List (List String)) := none
  parameterStarts : List (List String) := []
  anyParameters : Bool := false
  message : Option String := none
  severity : Option String := none
  deriving DecidableEq, Repr

namespace MatcherTable

variable {τ : Type}

def clauseIf (isSet : Bool) (c : Clause τ) : List (Clause τ) := if isSet then [c] else []

def signatureClauses : Option (List (List String)) → List (Clause τ)
  | none => []
  | some [] => [.withoutParameters]
  | some signatures => signatures.map .withParameters

/-- The clauses of a table. Criteria for everything come last in their kind. -/
def clauses (t : MatcherTable) : List (Clause τ) :=
  clauseIf (!t.types.isEmpty) (.ofTypes t.types)
    ++ clauseIf (!t.subtypes.isEmpty) (.ofSubtypes t.subtypes)
    ++ clauseIf t.anyType .ofAnyType
    ++ clauseIf (!t.names.isEmpty) (.namedOneOf t.names)
    ++ (t.nameStart.map .nameStartingWith).toList
    ++ clauseIf t.constructors .constructors
    ++ clauseIf t.anyName .anyName
    ++ signatureClauses t.parameters
    ++ t.parameterStarts.map .startingWithParameters
    ++ clauseIf t.anyParameters .withAnyParameters

def matcher (t : MatcherTable) : Except BuildError (Matcher τ) := Matcher.ofClauses t.clauses

open Toml (Value FieldError)

def read (v : Value) : Except FieldError MatcherTable := do
  let r ← v.asRecord ["id", "types", "subtypes", "any-type", "names", "name-prefix", "any-name", "constructor",
    "parameters", "parameter-prefixes", "any-parameters", "message", "severity"]
  let t ← r.read ({ id := "" } : MatcherTable) fun t key v =>
    match key with
    | "id" => return { t with id := ← v.asString }
    | "types" => return { t with types := ← v.asStrings }
    | "subtypes" => return { t with subtypes := ← v.asStrings }
    | "any-type" => return { t with anyType := ← v.asBoolean }
    | "names" => return { t with names := ← v.asStrings }
    | "name-prefix" => return { t with nameStart := some (← v.asString) }
    | "any-name" => return { t with anyName := ← v.asBoolean }
    | "constructor" => return { t with constructors := ← v.asBoolean }
    | "parameters" => return { t with parameters := some (← v.asList Value.asStrings) }
    | "parameter-prefixes" => return { t with parameterStarts := ← v.asList Value.asStrings }
    | "any-parameters" => return { t with anyParameters := ← v.asBoolean }
    | "message" => return { t with message := some (← v.asString) }
    | "severity" => return { t with severity := some (← v.asString) }
    | _ => return t
  r.require "id"
  return t

def readAll (r : Toml.Record) : Except FieldError (List MatcherTable) :=
  r.read [] fun ts key v =>
    match key with
    | "matcher" => v.asList read
    | _ => return ts

end MatcherTable

end CallSieve
