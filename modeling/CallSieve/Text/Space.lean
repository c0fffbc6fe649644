namespace CallSieve.Text

/-- Characters with the Unicode property White_Space, as first and last of each range. -/
def spaceRanges : List (Nat × Nat) :=
  [(0x09, 0x0D), (0x20, 0x20), (0x85, 0x85), (0xA0, 0xA0), (0x1680, 0x1680), (0x2000, 0x200A), (0x2028, 0x2029),
    (0x202F, 0x202F), (0x205F, 0x205F), (0x3000, 0x3000)]

def isSpace (c : Char) : Bool := spaceRanges.any fun (first, last) => first ≤ c.toNat && c.toNat ≤ last

def trimmedChars (cs : List Char) : List Char := ((cs.dropWhile isSpace).reverse.dropWhile isSpace).reverse

def trimmed (text : String) : String := String.ofList (trimmedChars text.toList)

end CallSieve.Text
