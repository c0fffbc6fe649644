import CallSieve.Json.Document
import CallSieve.Report

namespace CallSieve

open Json (Value)

def Finding.toJson (f : Finding) : Value :=
  .object [
    (some "id", .string f.id),
    (some "severity", .string f.severity.render),
    (some "location", .object [(some "file", .string f.file), (some "line", .natural f.line.toNat)]),
    (some "message", .string f.message)]

def Report.toJson (r : Report) : Value :=
  .object [
    (some "findings", .array (r.findings.map (·.toJson))),
    (some "sites_checked", .natural r.sitesChecked.toNat)]

def Report.toJsonText (r : Report) : String := Json.pretty 0 r.toJson

namespace Json.Value

def asString? : Value → Option String
  | string text => text
  | _ => none

/-- A number below a bound. -/
def asNatural? (bound : Nat) : Value → Option Nat
  | natural n => if n < bound then some n else none
  | _ => none

/-- The values of fields, each of which is there once. -/
def fields? (names : List String) : Value → Option (List Value)
  | object members =>
    if members.any fun (key, _) => key.isNone then none
    else names.mapM fun name =>
      match members.filter fun (key, _) => key == some name with
      | [(_, v)] => some v
      | _ => none
  | array items => if items.length == names.length then some items else none
  | _ => none

end Json.Value

/-- A severity by its written form. An object whose one member is null may
    stand for the key of that member. -/
def Severity.ofJson? : Value → Option Severity
  | .string (some text) => Severity.parse? text
  | .object [(some key, .null)] => Severity.parse? key
  | _ => none

def Finding.ofJson? (v : Value) : Option Finding := do
  match ← v.fields? ["id", "severity", "location", "message"] with
  | [id, severity, location, message] =>
    match ← location.fields? ["file", "line"] with
    | [file, line] =>
      some {
        id := ← id.asString?
        severity := ← Severity.ofJson? severity
        file := ← file.asString?
        line := UInt32.ofNat (← line.asNatural? UInt32.size)
        message := ← message.asString? }
    | _ => none
  | _ => none

def Report.ofJson? (v : Value) : Option Report := do
  match ← v.fields? ["findings", "sites_checked"] with
  | [.array findings, sitesChecked] =>
    some ⟨← findings.mapM Finding.ofJson?, UInt64.ofNat (← sitesChecked.asNatural? UInt64.size)⟩
  | _ => none

def Report.ofJsonText? (text : String) : Option Report := do Report.ofJson? (← Json.parse? text)

end CallSieve
