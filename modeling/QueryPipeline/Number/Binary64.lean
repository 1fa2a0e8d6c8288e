/-!
# Binary floating point numbers of 64 bits

Every finite number of the format is a whole multiple of `2 ^ -1074`, its unit, so a finite number
is kept as a sign and a count of units. Arithmetic is exact on quotients of counts and rounded once,
to the nearest count with a significand of 53 bits, the even one of two equally near.
-/

namespace QueryPipeline.Number

/-- A number of the format. -/
inductive Binary64
  /-- No number. -/
  | nan
  /-- An infinity. -/
  | infinite (negative : Bool)
  /-- A finite number as a count of units; both zeros are numbers of their own. -/
  | finite (negative : Bool) (units : Nat)
  deriving DecidableEq, Repr, Inhabited

namespace Binary64

/-- The units of the number one. -/
def one : Nat := Nat.pow 2 1074

/-- The least count of units that is too large for a finite number. -/
def overflow : Nat := Nat.pow 2 2098

/-- The number of low bits that a count of units with 53 significant bits cannot use. -/
def spareBits (units : Nat) : Nat := units.log2 - 52

/-- The whole number nearest to a quotient, the even one of two equally near. -/
def nearestWhole (num den : Nat) : Nat :=
  let low := num / den
  let twice := 2 * (num % den)
  if twice < den then low else if den < twice then low + 1 else low + low % 2

/-- The count of units nearest to a quotient of counts among those with 53 significant bits. -/
def nearest (num den : Nat) : Nat :=
  let step := Nat.pow 2 (spareBits (num / den))
  nearestWhole num (den * step) * step

/-- The number nearest to a quotient of counts of units. -/
def round (negative : Bool) (num den : Nat) : Binary64 :=
  let units := nearest num den
  if units < overflow then finite negative units else infinite negative

/-- The number nearest to a quotient. -/
def ofRatio (negative : Bool) (num den : Nat) : Binary64 := round negative (num * one) den

/-- The number nearest to a whole number. -/
def ofInt (n : Int) : Binary64 := ofRatio (n < 0) n.natAbs 1

/-- The number nearest to a quotient of whole numbers. -/
def ofQuotient (num den : Int) : Binary64 :=
  ofRatio (decide (num < 0) != decide (den < 0)) num.natAbs den.natAbs

/-- Whether a number is finite. -/
def isFinite : Binary64 → Bool
  | finite _ _ => true
  | _ => false

/-- Whether a number is zero or above; no number is not. -/
def isNonNegative : Binary64 → Bool
  | nan => false
  | infinite negative => !negative
  | finite negative units => !negative || units == 0

/-- Whether a number is below zero; no number is not. -/
def isNegative : Binary64 → Bool
  | nan => false
  | infinite negative => negative
  | finite negative units => negative && units != 0

/-- The number of the opposite sign. -/
def neg : Binary64 → Binary64
  | nan => nan
  | infinite negative => infinite !negative
  | finite negative units => finite (!negative) units

/-- The product, rounded once. -/
def mul : Binary64 → Binary64 → Binary64
  | nan, _ => nan
  | _, nan => nan
  | infinite s, infinite t => infinite (s != t)
  | infinite s, finite t units => if units = 0 then nan else infinite (s != t)
  | finite s units, infinite t => if units = 0 then nan else infinite (s != t)
  | finite s m, finite t n => round (s != t) (m * n) one

/-- The quotient by a positive whole number, rounded once. -/
def divNat : Binary64 → Nat → Binary64
  | nan, _ => nan
  | infinite negative, _ => infinite negative
  | finite negative units, n => round negative units n

/-- Why a number has no whole number near it. -/
inductive WholeFault
  /-- It is an infinity. -/
  | infinite
  /-- It is no number. -/
  | nan
  deriving DecidableEq, Repr

/-- The greatest whole number that is not above a number. -/
def floor : Binary64 → Except WholeFault Int
  | nan => .error .nan
  | infinite _ => .error .infinite
  | finite negative units =>
    .ok (if negative then -((units + one - 1) / one : Nat) else (units / one : Nat))

/-- The least whole number that is not below a number. -/
def ceil (x : Binary64) : Except WholeFault Int := (floor (neg x)).map (-·)

/-- The 64 bits of a number as a natural number; all that are no number have the same. -/
def toBits : Binary64 → Nat
  | nan => 2047 * Nat.pow 2 52 + Nat.pow 2 51
  | infinite negative => (if negative then Nat.pow 2 63 else 0) + 2047 * Nat.pow 2 52
  | finite negative units =>
    (if negative then Nat.pow 2 63 else 0) + spareBits units * Nat.pow 2 52 +
      units / Nat.pow 2 (spareBits units)

/-- The number with the given 64 bits. -/
def ofBits (bits : Nat) : Binary64 :=
  let negative := bits / Nat.pow 2 63 % 2 == 1
  let exponent := bits / Nat.pow 2 52 % 2048
  let fraction := bits % Nat.pow 2 52
  if exponent = 2047 then if fraction = 0 then infinite negative else nan
  else if exponent = 0 then finite negative fraction
  else finite negative ((Nat.pow 2 52 + fraction) * Nat.pow 2 (exponent - 1))

end Binary64

end QueryPipeline.Number
