import CallSieve.Matcher
import CallSieve.Severity

namespace CallSieve

/-- The characters an id may hold: ASCII letters and digits, and three marks. -/
def isIdChar (c : Char) : Bool := c.isAlphanum || c == '-' || c == '_' || c == '.'

/-- The id of a group, not empty and of id characters only. -/
structure MatcherId where
  text : String
  nonempty : text.isEmpty = false
  legal : text.toList.all isIdChar = true
  deriving DecidableEq

inductive IdError where
  | empty
  | illegal (text : String)
  deriving DecidableEq, Repr

def IdError.message : IdError → String
  | empty => "matcher id must not be empty"
  | illegal text => "invalid matcher id `" ++ text ++ "`: must be [A-Za-z0-9._-]"

def MatcherId.ofString (text : String) : Except IdError MatcherId :=
  if empty : text.isEmpty = true then .error .empty
  else if legal : text.toList.all isIdChar = true then .ok ⟨text, by simpa using empty, legal⟩
  else .error (.illegal text)

/-- Matchers with what is reported of the sites they accept. -/
structure MatcherGroup (τ : Type) where
  id : MatcherId
  matchers : Matchers τ
  message : String
  severity : Severity

end CallSieve
