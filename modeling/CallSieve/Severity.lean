namespace CallSieve

/-- How grave a finding is, in ascending order. -/
inductive Severity where
  | info
  | warning
  | error
  deriving DecidableEq, Repr

namespace Severity

def all : List Severity := [info, warning, error]

def rank : Severity → Nat
  | info => 0
  | warning => 1
  | error => 2

/-- At or above a threshold. -/
def reaches (s threshold : Severity) : Bool := threshold.rank ≤ s.rank

def render : Severity → String
  | info => "info"
  | warning => "warning"
  | error => "error"

/-- Reads exactly the written forms. -/
def parse? (text : String) : Option Severity := all.find? (·.render == text)

end Severity

end CallSieve
