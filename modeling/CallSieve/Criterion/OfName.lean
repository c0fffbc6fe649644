import CallSieve.NameSet
import CallSieve.Symbol
import CallSieve.Text.Quoted

namespace CallSieve

inductive NameCriterion where
  | oneOf (names : NameSet)
  | startsWith (start : String)
  /-- Every name, that of constructors included. -/
  | any
  /-- Every name the test accepts; it is shown that of constructors too. -/
  | predicate (test : String → Bool)
  | constructors

namespace NameCriterion

def ofNames (names : List String) : NameCriterion := oneOf (NameSet.ofList names)

def isAny : NameCriterion → Bool
  | any => true
  | _ => false

def accepts : NameCriterion → String → Bool
  | oneOf names, n => n != constructorName && names.contains n
  | startsWith start, n => n != constructorName && start.toList.isPrefixOf n.toList
  | any, _ => true
  | predicate test, n => test n
  | constructors, n => n == constructorName

theorem accepts_ofNames_iff {names : List String} {n : String} :
    (ofNames names).accepts n = true ↔ n ≠ constructorName ∧ n ∈ names := by
  simp [ofNames, accepts, NameSet.contains_ofList]

theorem accepts_startsWith_iff {start n : String} :
    (startsWith start).accepts n = true ↔ n ≠ constructorName ∧ start.toList <+: n.toList := by
  simp [accepts]

theorem accepts_constructors_iff {n : String} : constructors.accepts n = true ↔ n = constructorName := by
  simp [accepts]

/-- The short form that matchers are written with. -/
def render : NameCriterion → String
  | oneOf names => "|".intercalate names.names
  | startsWith start => start ++ "*"
  | any => "*"
  | predicate _ => "<predicate>"
  | constructors => constructorName

/-- The long form, with the kind of criterion spelled out. -/
def describe : NameCriterion → String
  | oneOf names => "ExactOneOf(\x7b" ++ ", ".intercalate (names.names.map Text.quoted) ++ "\x7d)"
  | startsWith start => "Prefix(" ++ Text.quoted start ++ ")"
  | any => "Any"
  | predicate _ => "Predicate(..)"
  | constructors => "Constructor"

end NameCriterion

end CallSieve
