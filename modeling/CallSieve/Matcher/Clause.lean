import CallSieve.Matcher

/-!
A matcher is described by a list of clauses, each of which adds criteria of one
kind. A criterion that accepts everything stands alone in its kind, and every
kind needs a criterion; the first clause that breaks the former rule decides
the error, whatever follows it.
-/

namespace CallSieve

/-- The kinds of criteria, in the order in which they are asked for. -/
inductive Kind where
  | type
  | name
  | parameters
  deriving DecidableEq, Repr

def Kind.render : Kind → String
  | .type => "type"
  | .name => "name"
  | .parameters => "parameters"

inductive BuildError where
  | incomplete (kind : Kind)
  /-- A criterion for everything is not alone in its kind. -/
  | conflictingAny (kind : Kind)
  deriving DecidableEq, Repr

namespace BuildError

def kind : BuildError → Kind
  | incomplete kind => kind
  | conflictingAny kind => kind

def message : BuildError → String
  | incomplete kind => "method matcher has no " ++ kind.render ++ " criteria"
  | conflictingAny kind =>
    "'any' " ++ kind.render ++ " criterion cannot be combined with other " ++ kind.render ++ " criteria"

def code : BuildError → String
  | incomplete _ => "methodmatch::incomplete"
  | conflictingAny _ => "methodmatch::conflicting_any"

def help : BuildError → String
  | incomplete _ => "every matcher needs at least one type, one name and one parameters criterion"
  | conflictingAny _ => "drop either the 'any' criterion or the specific ones"

end BuildError

/-- What one clause adds. A clause on types may add several criteria, or none. -/
inductive Clause (τ : Type) where
  | types (criteria : List (TypeCriterion τ))
  | name (criterion : NameCriterion)
  | parameters (criterion : ParametersCriterion τ)

namespace Clause

variable {τ : Type}

def addedTypes : Clause τ → List (TypeCriterion τ)
  | types criteria => criteria
  | name _ | parameters _ => []

def addedNames : Clause τ → List NameCriterion
  | name c => [c]
  | types _ | parameters _ => []

def addedParameters : Clause τ → List (ParametersCriterion τ)
  | parameters c => [c]
  | types _ | name _ => []

def ofTypeCriterion (c : TypeCriterion τ) : Clause τ := types [c]

def ofType (name : String) : Clause τ := types [.exact name]

def ofTypes (names : List String) : Clause τ := types (names.map .exact)

def ofSubtype (name : String) : Clause τ := types [.subtypeOf name]

def ofSubtypes (names : List String) : Clause τ := types (names.map .subtypeOf)

def ofAnyType : Clause τ := types [.any]

def ofTypeMatching (test : τ → Bool) : Clause τ := types [.predicate test]

def named (n : String) : Clause τ := name (.ofNames [n])

def namedOneOf (names : List String) : Clause τ := name (.ofNames names)

def nameStartingWith (start : String) : Clause τ := name (.startsWith start)

def anyName : Clause τ := name .any

def nameMatching (test : String → Bool) : Clause τ := name (.predicate test)

def constructors : Clause τ := name .constructors

def withoutParameters : Clause τ := parameters .empty

/-- Exactly these criteria. An empty list asks for no parameters. -/
def withParameterCriteria (each : List (TypeCriterion τ)) : Clause τ :=
  if each.isEmpty then withoutParameters else parameters (.exactly each)

def withParameters (names : List String) : Clause τ := withParameterCriteria (names.map .exact)

def withParametersMatching (each : List (τ → Bool)) : Clause τ := parameters (.testing each)

def withParametersWhere (test : List τ → Bool) : Clause τ := parameters (.predicate test)

def startingWithParameters (names : List String) : Clause τ := parameters (.startingWithNames names)

def startingWithParametersMatching (leading : List (τ → Bool)) : Clause τ :=
  parameters (.startingWith (leading.map .predicate))

def withAnyParameters : Clause τ := parameters .any

end Clause

/-- A matcher with all that clauses add, whether they may stand together or not. -/
def Matcher.collected {τ : Type} (clauses : List (Clause τ)) : Matcher τ :=
  ⟨clauses.flatMap (·.addedTypes), clauses.flatMap (·.addedNames), clauses.flatMap (·.addedParameters)⟩

/-- The criteria of one kind as clauses add them. Specific criteria stand next
    to each other; one for everything stands alone. -/
inductive Slot (κ : Type) where
  | unset
  | specific (criteria : List κ)
  | frozen (criterion : κ)

namespace Slot

variable {κ : Type}

/-- Adds a criterion, or refuses it and stays as it is. -/
def push (kind : Kind) (isAny : Bool) (c : κ) : Slot κ → Slot κ × Option BuildError
  | unset => if isAny then (frozen c, none) else (specific [c], none)
  | specific criteria =>
    if isAny then (specific criteria, some (.conflictingAny kind)) else (specific (criteria ++ [c]), none)
  | frozen criterion => (frozen criterion, some (.conflictingAny kind))

/-- The criteria of the kind, of which there is at least one. -/
def finish (kind : Kind) : Slot κ → Except BuildError (List κ)
  | unset => .error (.incomplete kind)
  | specific criteria => .ok criteria
  | frozen criterion => .ok [criterion]

end Slot

/-- The criteria of the clauses so far, and the first misuse of a clause. -/
structure Draft (τ : Type) where
  types : Slot (TypeCriterion τ)
  names : Slot NameCriterion
  parameters : Slot (ParametersCriterion τ)
  misuse : Option BuildError

namespace Draft

variable {τ : Type}

def empty : Draft τ := ⟨.unset, .unset, .unset, none⟩

def addType (d : Draft τ) (c : TypeCriterion τ) : Draft τ :=
  let (types, refused) := d.types.push .type c.isAny c
  { d with types, misuse := d.misuse.or refused }

def addName (d : Draft τ) (c : NameCriterion) : Draft τ :=
  let (names, refused) := d.names.push .name c.isAny c
  { d with names, misuse := d.misuse.or refused }

def addParameters (d : Draft τ) (c : ParametersCriterion τ) : Draft τ :=
  let (parameters, refused) := d.parameters.push .parameters c.isAny c
  { d with parameters, misuse := d.misuse.or refused }

def add (d : Draft τ) : Clause τ → Draft τ
  | .types criteria => criteria.foldl addType d
  | .name c => d.addName c
  | .parameters c => d.addParameters c

def ofClauses (clauses : List (Clause τ)) : Draft τ := clauses.foldl add empty

/-- The matcher of the criteria, unless a clause was misused or a kind has none. -/
def build (d : Draft τ) : Except BuildError (Matcher τ) :=
  match d.misuse with
  | some e => .error e
  | none => do
    let types ← d.types.finish .type
    let names ← d.names.finish .name
    let parameters ← d.parameters.finish .parameters
    return ⟨types, names, parameters⟩

end Draft

def Matcher.ofClauses {τ : Type} (clauses : List (Clause τ)) : Except BuildError (Matcher τ) :=
  (Draft.ofClauses clauses).build

end CallSieve
