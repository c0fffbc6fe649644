import CallSieve.Criterion.OfType

namespace CallSieve

inductive ParametersCriterion (τ : Type) where
  | empty
  /-- Every list, the empty one included. -/
  | any
  /-- One criterion for each parameter. -/
  | exactly (each : List (TypeCriterion τ))
  /-- Criteria for the leading parameters; more may follow. -/
  | startingWith (leading : List (TypeCriterion τ))
  /-- One test for each parameter. -/
  | testing (each : List (τ → Bool))
  /-- Every list the test accepts. -/
  | predicate (test : List τ → Bool)

namespace ParametersCriterion

variable {τ : Type}

def ofNames (names : List String) : ParametersCriterion τ := exactly (names.map .exact)

def startingWithNames (names : List String) : ParametersCriterion τ := startingWith (names.map .exact)

def isAny : ParametersCriterion τ → Bool
  | any => true
  | _ => false

/-- Each criterion accepts the parameter in its place, as far as both lists go. -/
def leadingAccepted [Hierarchy τ] (criteria : List (TypeCriterion τ)) (params : List τ) : Bool :=
  (criteria.zip params).all fun (c, t) => c.accepts t

def accepts [Hierarchy τ] : ParametersCriterion τ → List τ → Bool
  | empty, params => params.isEmpty
  | any, _ => true
  | exactly each, params => params.length == each.length && leadingAccepted each params
  | startingWith leading, params => leading.length ≤ params.length && leadingAccepted leading params
  | testing each, params => params.length == each.length && (each.zip params).all fun (test, t) => test t
  | predicate test, params => test params

def renderList (criteria : List (TypeCriterion τ)) : String := ", ".intercalate (criteria.map (·.render))

/-- The short form that matchers are written with. -/
def render : ParametersCriterion τ → String
  | empty => "()"
  | any => "(..)"
  | exactly each => "(" ++ renderList each ++ ")"
  | startingWith [] => "(..)"
  | startingWith leading => "(" ++ renderList leading ++ ", ..)"
  | testing each => "(" ++ ", ".intercalate (each.map fun _ => "<predicate>") ++ ")"
  | predicate _ => "(<predicate>..)"

/-- The long form, with the kind of criterion spelled out. -/
def describe : ParametersCriterion τ → String
  | empty => "NoParameters"
  | any => "AnyParameters"
  | exactly each => "ExactSequence([" ++ ", ".intercalate (each.map (·.describe)) ++ "])"
  | startingWith leading => "PrefixSequence([" ++ ", ".intercalate (leading.map (·.describe)) ++ "])"
  | testing each => "PredicateSequence(len=" ++ toString each.length ++ ")"
  | predicate _ => "Predicate(..)"

end ParametersCriterion

end CallSieve
