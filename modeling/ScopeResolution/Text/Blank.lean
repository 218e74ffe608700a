/-! # Blanks

The characters of the Unicode property White_Space, and the removal of blanks from the ends of a
text. -/

namespace ScopeResolution.Text

/-- The code points with the Unicode property White_Space, as closed ranges. -/
def blankRanges : List (Nat × Nat) :=
  [(0x9, 0xd), (0x20, 0x20), (0x85, 0x85), (0xa0, 0xa0), (0x1680, 0x1680), (0x2000, 0x200a),
    (0x2028, 0x2029), (0x202f, 0x202f), (0x205f, 0x205f), (0x3000, 0x3000)]

/-- Whether a code point lies in one of the closed ranges. -/
def inRanges (ranges : List (Nat × Nat)) (point : Nat) : Bool :=
  ranges.any fun (first, last) => first ≤ point && point ≤ last

/-- Whether a character has the Unicode property White_Space. -/
def isBlank (char : Char) : Bool := inRanges blankRanges char.toNat

/-- The text after its leading blanks. -/
def trimStart (text : List Char) : List Char := text.dropWhile isBlank

/-- The text before its trailing blanks. -/
def trimEnd (text : List Char) : List Char := (text.reverse.dropWhile isBlank).reverse

/-- The text between its leading and its trailing blanks. -/
def trim (text : List Char) : List Char := trimEnd (trimStart text)

end ScopeResolution.Text
