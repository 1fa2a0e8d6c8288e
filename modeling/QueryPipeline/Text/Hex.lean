/-!
# Hexadecimal digits
-/

namespace QueryPipeline.Text

/-- The value of a hexadecimal digit of either case. -/
def hexValue? (c : Char) : Option Nat :=
  let n := c.toNat
  if 0x30 ≤ n ∧ n ≤ 0x39 then some (n - 0x30)
  else if 0x61 ≤ n ∧ n ≤ 0x66 then some (n - 0x57)
  else if 0x41 ≤ n ∧ n ≤ 0x46 then some (n - 0x37)
  else none

/-- Whether a character is a hexadecimal digit of either case. -/
def isHexDigit (c : Char) : Bool := (hexValue? c).isSome

/-- The lower case digit of a value below sixteen. -/
def hexDigit (value : Nat) : Char := Char.ofNat (if value < 10 then 0x30 + value else 0x57 + value)

/-- The upper case digit of a value below sixteen. -/
def hexDigitUpper (value : Nat) : Char :=
  Char.ofNat (if value < 10 then 0x30 + value else 0x37 + value)

/-- The last `width` hexadecimal digits of a number, lower case, most significant first. -/
def hexOfWidth : Nat → Nat → List Char
  | 0, _ => []
  | width + 1, n => hexOfWidth width (n / 16) ++ [hexDigit (n % 16)]

/-- A written digit reads back as its value. -/
theorem hexValue?_hexDigit {value : Nat} (h : value < 16) :
    hexValue? (hexDigit value) = some value :=
  have all : ∀ n, n < 16 → hexValue? (hexDigit n) = some n := by decide
  all value h

/-- A written upper case digit reads back as its value. -/
theorem hexValue?_hexDigitUpper {value : Nat} (h : value < 16) :
    hexValue? (hexDigitUpper value) = some value :=
  have all : ∀ n, n < 16 → hexValue? (hexDigitUpper n) = some n := by decide
  all value h

end QueryPipeline.Text
