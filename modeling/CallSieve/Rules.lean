import CallSieve.Rules.Table

namespace CallSieve

/-- The fields that belong to a group and not to one of its tables. -/
inductive GroupField where
  | message
  | severity
  deriving DecidableEq, Repr

def GroupField.render : GroupField → String
  | .message => "message"
  | .severity => "severity"

/-- Why tables form no groups. The numbers are places in the list of tables. -/
inductive RuleError where
  | toml (e : Toml.Error)
  | badId (index : Nat) (e : IdError)
  | unknownSeverity (index : Nat) (value : String)
  | badMatcher (index : Nat) (e : BuildError)
  /-- A table sets a field of its group to another value than an earlier one. -/
  | inconsistent (index : Nat) (field : GroupField) (id : MatcherId)
  deriving DecidableEq

namespace RuleError

def place (index : Nat) : String := "matcher[" ++ toString index ++ "]"

def context : RuleError → String
  | toml _ => ""
  | badId i _ => place i ++ ".id"
  | unknownSeverity i _ => place i ++ ".severity"
  | badMatcher i _ => place i
  | inconsistent i field _ => place i ++ "." ++ field.render

def cause : RuleError → String
  | toml _ => ""
  | badId _ e => e.message
  | unknownSeverity _ value => "unknown severity `" ++ value ++ "`, expected: error, warning, info"
  | badMatcher _ e => e.message
  | inconsistent _ field id =>
    "group `" ++ id.text ++ "` sets `" ++ field.render ++ "` more than once with different values"

def message : RuleError → String
  | toml e => e.message
  | e => e.context ++ ": " ++ e.cause

end RuleError

/-- A group as far as its tables are read. -/
structure PartialGroup (τ : Type) where
  id : MatcherId
  matchers : List (Matcher τ)
  message : Option String
  severity : Option Severity

namespace PartialGroup

variable {τ : Type}

def empty (id : MatcherId) : PartialGroup τ := ⟨id, [], none, none⟩

/-- One value for a field that two tables may set; none if they differ. -/
def merge? {α : Type} [DecidableEq α] : Option α → Option α → Option (Option α)
  | old, none => some old
  | none, some new => some (some new)
  | some old, some new => if old = new then some (some old) else none

/-- Adds the matcher of a table and what the table sets for its group. -/
def add (g : PartialGroup τ) (index : Nat) (m : Matcher τ) (message : Option String) (severity : Option Severity) :
    Except RuleError (PartialGroup τ) :=
  match merge? g.message message with
  | none => .error (.inconsistent index .message g.id)
  | some message =>
    match merge? g.severity severity with
    | none => .error (.inconsistent index .severity g.id)
    | some severity => .ok ⟨g.id, g.matchers ++ [m], message, severity⟩

/-- The group, with defaults for what no table sets. -/
def finish (g : PartialGroup τ) : MatcherGroup τ where
  id := g.id
  matchers := ⟨g.matchers⟩
  message := g.message.getD ("call matched by `" ++ g.id.text ++ "`")
  severity := g.severity.getD .warning

end PartialGroup

namespace Rules

variable {τ : Type}

/-- Adds a table to the group of its id, or to a new group at the end. -/
def addToGroups (id : MatcherId) (add : PartialGroup τ → Except RuleError (PartialGroup τ)) :
    List (PartialGroup τ) → Except RuleError (List (PartialGroup τ))
  | [] => return [← add (.empty id)]
  | g :: rest =>
    if g.id = id then return (← add g) :: rest
    else return g :: (← addToGroups id add rest)

def severityOf (index : Nat) : Option String → Except RuleError (Option Severity)
  | none => .ok none
  | some text =>
    match Severity.parse? text with
    | some s => .ok (some s)
    | none => .error (.unknownSeverity index text)

/-- Reads one table: its id, its severity, its criteria, and then what it sets for its group. -/
def addTable (groups : List (PartialGroup τ)) (entry : MatcherTable × Nat) :
    Except RuleError (List (PartialGroup τ)) := do
  let (t, index) := entry
  let id ← (MatcherId.ofString t.id).mapError (.badId index)
  let severity ← severityOf index t.severity
  let m ← t.matcher.mapError (.badMatcher index)
  addToGroups id (·.add index m t.message severity) groups

/-- The groups of tables, in the order in which their ids first appear. -/
def load (tables : List MatcherTable) : Except RuleError (List (MatcherGroup τ)) := do
  let groups ← tables.zipIdx.foldlM addTable []
  return groups.map (·.finish)

def parse (text : String) : Except RuleError (List (MatcherGroup τ)) :=
  match Toml.readText text MatcherTable.readAll with
  | .ok tables => load tables
  | .error e => .error (.toml e)

end Rules

end CallSieve
