/-!
# White space

The characters that carry the white-space property, in ASCII and beyond, and what it means to trim them. -/

namespace TypedTables.Text

/-- The ranges of white space, first and last code point included. -/
def blankRanges : List (Nat × Nat) :=
  [(0x09, 0x0d), (0x20, 0x20), (0x85, 0x85), (0xa0, 0xa0), (0x1680, 0x1680), (0x2000, 0x200a), (0x2028, 0x2029),
   (0x202f, 0x202f), (0x205f, 0x205f), (0x3000, 0x3000)]

/-- A character of white space. -/
def isBlank (c : Char) : Bool := blankRanges.any fun range => range.1 ≤ c.toNat && c.toNat ≤ range.2

/-- The characters without white space at their end. -/
def trimEnd (s : List Char) : List Char := (s.reverse.dropWhile isBlank).reverse

/-- White space stands at the start or at the end. -/
def isPadded (s : List Char) : Bool := s.head?.any isBlank || s.getLast?.any isBlank

example : isBlank ' ' ∧ isBlank '\n' ∧ isBlank '\x0b' ∧ isBlank '\u00a0' ∧ ¬ isBlank '\u200b' := by decide

end TypedTables.Text
