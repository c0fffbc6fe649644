import CallSieve.Snapshot
import CallSieve.Toml.Record

namespace CallSieve

structure MethodEntry where
  id : String
  owner : String
  name : Option String
  isConstructor : Bool
  parameters : List String
  deriving DecidableEq, Repr

structure SiteEntry where
  line : UInt32
  kind : SiteKind
  method : Option String
  receiver : Option String
  interface : Option String
  deriving DecidableEq, Repr

structure SnapshotFile where
  types : List TypeDecl
  methods : List MethodEntry
  sites : List SiteEntry
  deriving DecidableEq, Repr

/-- Why a text is no snapshot. The numbers are places in the lists of the file. -/
inductive SnapshotError where
  | toml (e : Toml.Error)
  | emptyTypeName (index : Nat)
  | emptyMethodName (index : Nat)
  /-- A method with both a name and the mark of constructors, or with neither. -/
  | ambiguousMethodName (index : Nat)
  | duplicateMethod (index : Nat) (id : String)
  | unknownMethod (index : Nat) (id : String)
  deriving DecidableEq, Repr

namespace SnapshotError

def placeIn (list : String) (index : Nat) : String := list ++ "[" ++ toString index ++ "]"

def context : SnapshotError → String
  | toml _ => ""
  | emptyTypeName i => placeIn "types" i ++ ".name"
  | emptyMethodName i => placeIn "methods" i ++ ".name"
  | ambiguousMethodName i => placeIn "methods" i
  | duplicateMethod i _ => placeIn "methods" i ++ ".id"
  | unknownMethod i _ => placeIn "sites" i ++ ".method"

def cause : SnapshotError → String
  | toml _ => ""
  | emptyTypeName _ | emptyMethodName _ => "name must not be empty"
  | ambiguousMethodName _ => "exactly one of `name` or `constructor = true` must be set"
  | duplicateMethod _ id => "duplicate method id `" ++ id ++ "`"
  | unknownMethod _ id => "unknown method id `" ++ id ++ "`"

def message : SnapshotError → String
  | toml e => e.message
  | e => e.context ++ ": " ++ e.cause

end SnapshotError

namespace SnapshotFile

def declareType (t : TypeTable) (entry : TypeDecl × Nat) : Except SnapshotError TypeTable :=
  if entry.1.name.isEmpty then .error (.emptyTypeName entry.2) else .ok (t.declare entry.1)

/-- The name of a method: its own, or that of constructors. -/
def methodName (m : MethodEntry) (index : Nat) : Except SnapshotError String :=
  match m.name, m.isConstructor with
  | some name, false => if name.isEmpty then .error (.emptyMethodName index) else .ok name
  | none, true => .ok constructorName
  | _, _ => .error (.ambiguousMethodName index)

/-- The methods declared so far, and their handles by id. -/
structure Methods where
  table : TypeTable
  handles : List (String × MethodId)

def declareMethod (ms : Methods) (entry : MethodEntry × Nat) : Except SnapshotError Methods := do
  let (m, index) := entry
  let name ← methodName m index
  if (ms.handles.lookup m.id).isSome then throw (.duplicateMethod index m.id)
  let (table, handle) := ms.table.declareMethod ⟨m.owner, name, m.parameters⟩
  return ⟨table, ms.handles ++ [(m.id, handle)]⟩

def bindSite (handles : List (String × MethodId)) (entry : SiteEntry × Nat) : Except SnapshotError Site := do
  let (s, index) := entry
  let method ← match s.method with
    | none => pure none
    | some id => match handles.lookup id with
      | some handle => pure (some handle)
      | none => throw (.unknownMethod index id)
  return ⟨s.line, s.kind, method, s.receiver, s.interface⟩

/-- The snapshot of a file: first all its types, then its methods, then its sites. -/
def load (f : SnapshotFile) : Except SnapshotError Snapshot := do
  let table ← f.types.zipIdx.foldlM declareType TypeTable.initial
  let methods ← f.methods.zipIdx.foldlM declareMethod ⟨table, []⟩
  let sites ← f.sites.zipIdx.mapM (bindSite methods.handles)
  return ⟨methods.table, sites⟩

open Toml (Value FieldError)

def readType (v : Value) : Except FieldError TypeDecl := do
  let r ← v.asRecord ["name", "kind", "extends"]
  let d ← r.read (⟨"", .classKind, []⟩ : TypeDecl) fun d key v =>
    match key with
    | "name" => return { d with name := ← v.asString }
    | "kind" => return { d with kind := ← v.asVariant TypeKind.render TypeKind.all }
    | "extends" => return { d with supers := ← v.asStrings }
    | _ => return d
  r.require "name"
  return d

def readMethod (v : Value) : Except FieldError MethodEntry := do
  let r ← v.asRecord ["id", "owner", "name", "constructor", "params"]
  let m ← r.read (⟨"", "", none, false, []⟩ : MethodEntry) fun m key v =>
    match key with
    | "id" => return { m with id := ← v.asString }
    | "owner" => return { m with owner := ← v.asString }
    | "name" => return { m with name := some (← v.asString) }
    | "constructor" => return { m with isConstructor := ← v.asBoolean }
    | "params" => return { m with parameters := ← v.asStrings }
    | _ => return m
  r.require "id"
  r.require "owner"
  return m

def readSite (v : Value) : Except FieldError SiteEntry := do
  let r ← v.asRecord ["line", "kind", "method", "receiver", "interface"]
  let s ← r.read (⟨0, .declaration, none, none, none⟩ : SiteEntry) fun s key v =>
    match key with
    | "line" => return { s with line := ← v.asWord }
    | "kind" => return { s with kind := ← v.asVariant SiteKind.render SiteKind.all }
    | "method" => return { s with method := some (← v.asString) }
    | "receiver" => return { s with receiver := some (← v.asString) }
    | "interface" => return { s with interface := some (← v.asString) }
    | _ => return s
  r.require "line"
  r.require "kind"
  return s

def read (r : Toml.Record) : Except FieldError SnapshotFile :=
  r.read (⟨[], [], []⟩ : SnapshotFile) fun f key v =>
    match key with
    | "types" => return { f with types := ← v.asList readType }
    | "methods" => return { f with methods := ← v.asList readMethod }
    | "sites" => return { f with sites := ← v.asList readSite }
    | _ => return f

end SnapshotFile

def Snapshot.parse (text : String) : Except SnapshotError Snapshot :=
  match Toml.readText text SnapshotFile.read with
  | .ok f => f.load
  | .error e => .error (.toml e)

end CallSieve
