import CallSieve.Text.Hexadecimal

namespace CallSieve.Text

/-- Escape, bell, backspace, form feed and delete. -/
def terminalControls : List Char := ['\x1b', '\x07', '\x08', '\x0c', '\x7f']

/-- One character for a terminal. Line ends and tabs stay as they are. -/
def inertChar (c : Char) : String :=
  if terminalControls.contains c then "\\x" ++ (if c.toNat < 16 then "0" else "") ++ hexadecimal c.toNat
  else if 0x80 ≤ c.toNat && c.toNat ≤ 0x9f then "\\u\x7b" ++ hexadecimal c.toNat ++ "\x7d"
  else c.toString

/-- A text that a terminal shows and does not obey. -/
def inert (text : String) : String := String.join (text.toList.map inertChar)

end CallSieve.Text
