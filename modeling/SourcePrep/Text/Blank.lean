/-!
# Blank characters

The characters with the Unicode property `White_Space`, which decide what a blank line is, what is
trimmed, and what `\s` matches.
-/

set_option autoImplicit false

namespace SourcePrep.Text

/-- The blank characters, as ranges of code points in ascending order. -/
def blankRanges : List (Nat × Nat) :=
  [(0x9, 0xD), (0x20, 0x20), (0x85, 0x85), (0xA0, 0xA0), (0x1680, 0x1680), (0x2000, 0x200A),
    (0x2028, 0x2029), (0x202F, 0x202F), (0x205F, 0x205F), (0x3000, 0x3000)]

/-- The character is blank. -/
def isBlank (c : Char) : Bool := blankRanges.any fun r => r.1 ≤ c.toNat && c.toNat ≤ r.2

/-- Every character of the text is blank. -/
def allBlank (s : String) : Bool := s.toList.all isBlank

/-- The text without the blank characters at its two ends. -/
def trim (s : String) : String :=
  String.ofList ((s.toList.dropWhile isBlank).reverse.dropWhile isBlank).reverse

end SourcePrep.Text
