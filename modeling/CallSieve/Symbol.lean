namespace CallSieve

/-- The reserved method name of constructors. It is no legal identifier. -/
def constructorName : String := "<init>"

structure Symbol (τ : Type) where
  name : String
  isMethod : Bool
  isUnknown : Bool
  owner : Option τ
  parameters : List τ

/-- A method known by that name is a constructor. -/
def Symbol.isConstructor {τ : Type} (s : Symbol τ) : Bool := s.isMethod && s.name == constructorName

/-- A node of a program: what it resolves to, and the static type of its call
    site where it has one. -/
structure Subject (τ : Type) where
  symbol : Option (Symbol τ)
  callSite : Option τ

end CallSieve
