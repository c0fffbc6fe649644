import CallSieve.Hierarchy
import CallSieve.Text.Quoted

namespace CallSieve

inductive TypeCriterion (τ : Type) where
  /-- Every type, the unknown ones included. -/
  | any
  | exact (name : String)
  /-- The type of this name and all that inherit from it. -/
  | subtypeOf (name : String)
  /-- Every type the test accepts; its supertypes are not looked at. -/
  | predicate (test : τ → Bool)

namespace TypeCriterion

variable {τ : Type}

def isAny : TypeCriterion τ → Bool
  | any => true
  | _ => false

def accepts [Hierarchy τ] : TypeCriterion τ → τ → Bool
  | any, _ => true
  | exact name, t => Hierarchy.hasName t name
  | subtypeOf name, t => Hierarchy.isSubtype t name
  | predicate test, t => test t

/-- The short form that matchers are written with. -/
def render : TypeCriterion τ → String
  | any => "*"
  | exact name => name
  | subtypeOf name => name ++ "+"
  | predicate _ => "<predicate>"

/-- The long form, with the kind of criterion spelled out. -/
def describe : TypeCriterion τ → String
  | any => "Any"
  | exact name => "Exact(" ++ Text.quoted name ++ ")"
  | subtypeOf name => "SubtypeOf(" ++ Text.quoted name ++ ")"
  | predicate _ => "Predicate(..)"

end TypeCriterion

end CallSieve
