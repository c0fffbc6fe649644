import CallSieve.Json.Token

namespace CallSieve.Json

mutual
/-- The value at the start of some tokens, and the tokens after it. -/
def value? : Nat → List Token → Option (Value × List Token)
  | 0, _ => none
  | _ + 1, .atom v :: rest => some (v, rest)
  | _ + 1, .openArray :: .closeArray :: rest => some (.array [], rest)
  | fuel + 1, .openArray :: rest => (items? fuel rest).map fun (vs, rest) => (.array vs, rest)
  | _ + 1, .openObject :: .closeObject :: rest => some (.object [], rest)
  | fuel + 1, .openObject :: rest => (members? fuel rest).map fun (ms, rest) => (.object ms, rest)
  | _ + 1, _ => none
/-- Items up to the closing bracket, at least one. -/
def items? : Nat → List Token → Option (List Value × List Token)
  | 0, _ => none
  | fuel + 1, ts => do
    let (v, rest) ← value? fuel ts
    match rest with
    | .closeArray :: rest => some ([v], rest)
    | .comma :: rest => (items? fuel rest).map fun (vs, rest) => (v :: vs, rest)
    | _ => none
/-- Members up to the closing brace, at least one. -/
def members? : Nat → List Token → Option (List (Option String × Value) × List Token)
  | 0, _ => none
  | fuel + 1, .atom (.string key) :: .colon :: ts => do
    let (v, rest) ← value? fuel ts
    match rest with
    | .closeObject :: rest => some ([(key, v)], rest)
    | .comma :: rest => (members? fuel rest).map fun (ms, rest) => ((key, v) :: ms, rest)
    | _ => none
  | _ + 1, _ => none
end

def parse? (text : String) : Option Value := do
  let cs := text.toList
  let ts ← tokens? (cs.length + 1) cs
  match ← value? (2 * ts.length + 1) ts with
  | (v, []) => some v
  | _ => none

def indent (level : Nat) : String := String.ofList (List.replicate (2 * level) ' ')

/-- A string; what no text can hold is written as half of a surrogate pair. -/
def stringText : Option String → String
  | some text => quoted text
  | none => "\"\\ud800\""

mutual
/-- The text of a value, the lines after the first indented for its level. -/
def pretty (level : Nat) : Value → String
  | .null => "null"
  | .boolean b => if b then "true" else "false"
  | .natural n => Nat.repr n
  | .number text => text
  | .string text => stringText text
  | .array [] => "[]"
  | .array items => "[\n" ++ prettyItems (level + 1) items ++ "\n" ++ indent level ++ "]"
  | .object [] => "\x7b\x7d"
  | .object members => "\x7b\n" ++ prettyMembers (level + 1) members ++ "\n" ++ indent level ++ "\x7d"
def prettyItems (level : Nat) : List Value → String
  | [] => ""
  | [v] => indent level ++ pretty level v
  | v :: rest => indent level ++ pretty level v ++ ",\n" ++ prettyItems level rest
def prettyMembers (level : Nat) : List (Option String × Value) → String
  | [] => ""
  | [(key, v)] => indent level ++ stringText key ++ ": " ++ pretty level v
  | (key, v) :: rest => indent level ++ stringText key ++ ": " ++ pretty level v ++ ",\n" ++ prettyMembers level rest
end

end CallSieve.Json
