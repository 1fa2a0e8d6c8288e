/-!
# Blank characters

Two sets of blanks occur. Flags, and texts tested for being a whole number, are trimmed of every
blank; the numeral readers skip the same set without the four information separators
U+001C to U+001F.
-/

namespace QueryPipeline.Text

/-- The blanks around a numeral: the white space of Unicode without the information separators. -/
def isNumeralBlank (c : Char) : Bool :=
  let n := c.toNat
  (0x09 ≤ n && n ≤ 0x0D) || n == 0x20 || n == 0x85 || n == 0xA0 || n == 0x1680 ||
    (0x2000 ≤ n && n ≤ 0x200A) || n == 0x2028 || n == 0x2029 || n == 0x202F || n == 0x205F ||
    n == 0x3000

/-- The blanks that trimming removes: those around a numeral and the information separators. -/
def isBlank (c : Char) : Bool :=
  isNumeralBlank c || (0x1C ≤ c.toNat && c.toNat ≤ 0x1F)

/-- A text without the characters of a class at its two ends. -/
def trimBy (blank : Char → Bool) (text : List Char) : List Char :=
  ((text.dropWhile blank).reverse.dropWhile blank).reverse

/-- A text without blanks at its two ends. -/
def trim (text : List Char) : List Char := trimBy isBlank text

end QueryPipeline.Text
