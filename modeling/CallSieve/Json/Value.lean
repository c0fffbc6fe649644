namespace CallSieve.Json

/-- A value. A string is none where an escape leaves half of a surrogate pair,
    which no text can hold. -/
inductive Value where
  | null
  | boolean (b : Bool)
  /-- A number without a sign, a fraction and an exponent. -/
  | natural (n : Nat)
  /-- Any other number, as it is written. -/
  | number (text : String)
  | string (text : Option String)
  | array (items : List Value)
  | object (members : List (Option String × Value))

end CallSieve.Json
