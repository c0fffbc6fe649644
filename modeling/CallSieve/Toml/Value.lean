namespace CallSieve.Toml

/-- A value of a TOML document. Tables keep the order of their keys; of floats
    and of dates and times only the writing is kept. -/
inductive Value where
  | string (text : String)
  | integer (value : Int)
  | float (text : String)
  | boolean (value : Bool)
  | moment (text : String)
  | array (items : List Value)
  | table (entries : List (String × Value))

end CallSieve.Toml
