import CallSieve.Criterion.OfName
import CallSieve.Criterion.OfParameters

namespace CallSieve

variable {τ : Type}

structure Matcher (τ : Type) where
  types : List (TypeCriterion τ)
  names : List NameCriterion
  parameters : List (ParametersCriterion τ)

namespace Matcher

variable [Hierarchy τ]

/-- What the three kinds say of an owner type, a name and parameter types. -/
def meets (m : Matcher τ) (owner : τ) (name : String) (params : List τ) : Bool :=
  m.types.any (·.accepts owner) && m.names.any (·.accepts name) && m.parameters.any (·.accepts params)

/-- A known method meets the matcher with the type of its call site for an
    owner, or with its own owner where there is no call site. -/
def acceptsResolved (m : Matcher τ) (s : Symbol τ) (callSite : Option τ) : Bool :=
  if s.isUnknown || !s.isMethod then false
  else
    match callSite.or s.owner with
    | some owner => m.meets owner s.name s.parameters
    | none => false

/-- A node; one that resolves to nothing is never accepted. -/
def accepts (m : Matcher τ) (n : Subject τ) : Bool :=
  match n.symbol with
  | some s => m.acceptsResolved s n.callSite
  | none => false

def acceptsSymbol (m : Matcher τ) (s : Symbol τ) : Bool := m.acceptsResolved s none

end Matcher

def Matcher.render (m : Matcher τ) : String :=
  " | ".intercalate (m.types.map (·.render)) ++ " #" ++ " | ".intercalate (m.names.map (·.render)) ++ " "
    ++ " | ".intercalate (m.parameters.map (·.render))

/-- Alternative matchers. No matcher at all accepts nothing. -/
structure Matchers (τ : Type) where
  all : List (Matcher τ)

namespace Matchers

def empty : Matchers τ := ⟨[]⟩

def single (m : Matcher τ) : Matchers τ := ⟨[m]⟩

/-- The alternatives of each, one after the other. -/
def or (each : List (Matchers τ)) : Matchers τ := ⟨each.flatMap (·.all)⟩

/-- Matchers gathered from a sequence are alternatives. -/
def collect (each : List (Matchers τ)) : Matchers τ := or each

variable [Hierarchy τ]

def accepts (ms : Matchers τ) (n : Subject τ) : Bool := ms.all.any (·.accepts n)

def acceptsSymbol (ms : Matchers τ) (s : Symbol τ) : Bool := ms.all.any (·.acceptsSymbol s)

end Matchers

end CallSieve
