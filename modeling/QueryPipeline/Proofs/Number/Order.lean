import Mathlib.GroupTheory.GroupAction.Ring
import QueryPipeline.Number.Integer
import QueryPipeline.Proofs.Number.Binary64

/-!
# The order of floating point numbers

Rounding keeps order: of two quotients by one number, the greater is never rounded below the other.
A quotient of whole numbers up to `2 ^ 53` is moved past no whole number either, so the whole
numbers next to it can be told from what it is rounded to. How far a quotient is moved is used only
for that and bounded by half a step.
-/

namespace QueryPipeline.Number.Binary64

section

variable {small great num den whole : Nat}

/-- The whole number nearest to a greater quotient is no less. -/
theorem nearestWhole_mono (le : small ≤ great) :
    nearestWhole small den ≤ nearestWhole great den := by
  rcases (Nat.div_le_div_right (c := den) le).lt_or_eq with less | same
  · have low := (nearestWhole_bounds small den).2
    have high := (nearestWhole_bounds great den).1
    omega
  · have first := Nat.div_add_mod small den
    have second := Nat.div_add_mod great den
    rw [same] at first
    have rest : small % den ≤ great % den := by omega
    rw [nearestWhole, nearestWhole, same]
    split_ifs <;> omega

/-- The whole number nearest to a quotient is at most a half above it. -/
theorem two_mul_nearestWhole_mul_le (num den : Nat) :
    2 * (nearestWhole num den * den) ≤ 2 * num + den := by
  have parts := Nat.div_add_mod num den
  have next : (num / den + 1) * den = den * (num / den) + den := by ring
  by_cases upper : den ≤ 2 * (num % den)
  · have most : nearestWhole num den * den ≤ (num / den + 1) * den :=
      Nat.mul_le_mul_right den (nearestWhole_bounds num den).2
    omega
  · rw [nearestWhole, if_pos (by omega), Nat.mul_comm (num / den)]
    omega

/-- Rounding keeps order. -/
theorem nearest_mono (divisor : 0 < den) (le : small ≤ great) :
    nearest small den ≤ nearest great den := by
  have quotients : small / den ≤ great / den := Nat.div_le_div_right le
  rcases (log2_le_log2 quotients).lt_or_eq with less | same
  · -- A power of two lies between the two.
    have nonzero : great / den ≠ 0 := by
      intro zero
      rw [zero, Nat.log2_zero] at less
      omega
    have above : small ≤ 2 ^ ((small / den).log2 + 1) * den :=
      ((Nat.div_lt_iff_lt_mul divisor).mp Nat.lt_log2_self).le
    have steps : stepOf (small / den) ∣ 2 ^ ((small / den).log2 + 1) :=
      (stepOf_dvd_two_pow_log2 _).trans (Nat.pow_dvd_pow 2 (Nat.le_succ _))
    calc nearest small den
        ≤ 2 ^ ((small / den).log2 + 1) := nearest_le_of_dvd divisor steps above
      _ ≤ 2 ^ (great / den).log2 := Nat.pow_le_pow_right Nat.two_pos less
      _ ≤ nearest great den := two_pow_log2_le_nearest divisor nonzero
  · have steps : stepOf (small / den) = stepOf (great / den) := by
      rw [stepOf, stepOf, spareBits, spareBits, same]
    rw [nearest_eq, nearest_eq, steps]
    exact Nat.mul_le_mul_right _ (nearestWhole_mono le)

/-- Where a step spans at most two units of a numerator up to `2 ^ 53`, rounding to whole steps does
not make up for a unit that is missing. -/
theorem nearestWhole_mul_lt {step bound : Nat} (small : num ≤ 2 ^ 53) (positive : 0 < step)
    (span : step * 2 ^ 52 ≤ num * one) (missing : num * one + one ≤ bound) :
    nearestWhole (num * one) step * step < bound := by
  have unit := one_pos
  have most : num * one ≤ 2 ^ 53 * one := Nat.mul_le_mul_right one small
  have half := two_mul_nearestWhole_mul_le (num * one) step
  rcases Nat.lt_or_ge step (2 * one) with short | full
  · omega
  · -- So great a step fits the numerator exactly, and nothing is rounded.
    have exact : num * one = 2 ^ 52 * step := by omega
    have divides : num * one % step = 0 := by rw [exact, Nat.mul_mod_left]
    have quotient := Nat.div_mul_le_self (num * one) step
    rw [nearestWhole_of_dvd positive divides]
    omega

/-- A quotient of a whole number up to `2 ^ 53` that is below a whole number is rounded to a number
below it. -/
theorem nearest_lt_of_lt_mul (small : num ≤ 2 ^ 53) (below : num < whole * den) :
    nearest (num * one) den < whole * one := by
  have divisor : 0 < den := Nat.pos_of_mul_pos_left (Nat.zero_lt_of_lt below)
  have positive : 0 < whole := Nat.pos_of_mul_pos_right (Nat.zero_lt_of_lt below)
  by_cases long : 2 ^ 52 ≤ num * one / den
  · have missing : num * one + one ≤ whole * one * den := by
      calc num * one + one = (num + 1) * one := by ring
        _ ≤ whole * den * one := Nat.mul_le_mul_right one below
        _ = whole * one * den := by ring
    have rounded := nearestWhole_mul_lt small (Nat.mul_pos divisor (stepOf_pos _))
      (mul_stepOf_le divisor long) missing
    have counted : nearest (num * one) den * den < whole * one * den := by
      rw [nearest_eq, Nat.mul_assoc, Nat.mul_comm (stepOf _)]
      exact rounded
    exact Nat.lt_of_mul_lt_mul_right counted
  · have above : num * one ≤ 2 ^ 52 * den :=
      ((Nat.div_lt_iff_lt_mul divisor).mp (Nat.lt_of_not_le long)).le
    calc nearest (num * one) den ≤ 2 ^ 52 := nearest_le divisor (isExact_two_pow 52) above
      _ < one := by decide +kernel
      _ ≤ whole * one := Nat.le_mul_of_pos_left one positive

/-- The whole number below a quotient of whole numbers up to `2 ^ 53` is the one below what it is
rounded to. -/
theorem nearest_div_one (small : num ≤ 2 ^ 53) (divisor : 0 < den) :
    nearest (num * one) den / one = num / den := by
  refine eq_of_forall_le_iff fun whole => ?_
  rw [Nat.le_div_iff_mul_le one_pos, Nat.le_div_iff_mul_le divisor]
  constructor
  · intro within
    by_contra less
    exact (nearest_lt_of_lt_mul small (Nat.lt_of_not_le less)).not_ge within
  · intro within
    have short : whole ≤ 2 ^ 53 := ((Nat.le_mul_of_pos_right whole divisor).trans within).trans small
    refine le_nearest divisor (isExact_mul_one short) ?_
    calc whole * one * den = whole * den * one := by ring
      _ ≤ num * one := Nat.mul_le_mul_right one within

/-- The whole number above a quotient of whole numbers up to `2 ^ 53` is the one above what it is
rounded to. -/
theorem nearest_ceil_one (small : num ≤ 2 ^ 53) (divisor : 0 < den) (short : den ≤ one) :
    (nearest (num * one) den + one - 1) / one = num ⌈/⌉ den := by
  refine eq_of_forall_ge_iff fun whole => ?_
  rw [ceilDiv_le_iff_le_mul divisor, ← Nat.not_lt, lt_ceil_iff, Nat.not_lt]
  constructor
  · intro within
    by_contra less
    rw [Nat.not_le, Nat.mul_comm] at less
    refine absurd within (Nat.not_le.mpr ?_)
    rcases Nat.eq_zero_or_pos whole with rfl | positive
    · -- What is above nothing is rounded to something.
      rw [Nat.zero_mul] at less ⊢
      have unit : 1 * den ≤ num * one := by
        rw [Nat.one_mul]
        exact short.trans (Nat.le_mul_of_pos_left one less)
      exact le_nearest divisor (isExact_two_pow 0) unit
    · exact lt_nearest_of_mul_lt positive small less divisor
  · intro within
    rw [Nat.mul_comm] at within
    exact nearest_le_of_le_mul small divisor within

end

/-- The place of a number in the order, in units: infinities come next to the finite numbers, and no
number has no place. -/
def place? : Binary64 → Option Int
  | nan => none
  | infinite negative => some (signed negative overflow)
  | finite negative units => some (signed negative units)

/-- Numbers are compared by their places, so both zeros are equal; no number is above or below
another. -/
instance : LE Binary64 := ⟨fun x y => ∃ first ∈ x.place?, ∃ second ∈ y.place?, first ≤ second⟩

/-- Two numbers that have places are compared by them. -/
theorem le_iff {x y : Binary64} {first second : Int} (placed : x.place? = some first)
    (beside : y.place? = some second) : x ≤ y ↔ first ≤ second := by
  change (∃ a ∈ x.place?, ∃ b ∈ y.place?, a ≤ b) ↔ _
  simp only [placed, beside, Option.mem_some_iff, exists_eq_left']

/-- The order goes on from one pair of numbers to the next. -/
protected theorem le_trans {x y z : Binary64} (first : x ≤ y) (second : y ≤ z) : x ≤ z := by
  obtain ⟨a, placed, b, middle, below⟩ := first
  obtain ⟨b', again, c, last, above⟩ := second
  obtain rfl : b = b' := Option.some.inj (middle.symm.trans again)
  exact ⟨a, placed, c, last, below.trans above⟩

/-- The whole number zero is the zero without a sign. -/
theorem ofInt_zero : ofInt 0 = finite false 0 := by
  rw [ofInt_of_natAbs_le (Nat.zero_le _), Int.natAbs_zero, Nat.zero_mul]
  rfl

/-- The numbers that pass for zero or above are those from zero on. -/
theorem isNonNegative_iff (x : Binary64) : x.isNonNegative = true ↔ ofInt 0 ≤ x := by
  rw [ofInt_zero]
  cases x with
  | nan =>
    refine iff_of_false Bool.false_ne_true ?_
    rintro ⟨_, -, _, none, -⟩
    cases none
  | infinite negative =>
    rw [le_iff rfl rfl]
    cases negative <;> decide +kernel
  | finite negative units =>
    rw [le_iff rfl rfl]
    cases negative with
    | false => exact iff_of_true rfl (Int.natCast_nonneg units)
    | true => simp [isNonNegative, signed]

/-- What lies between zero and a whole number up to `2 ^ 53` is finite and, unless it is a zero,
without a sign. -/
theorem exists_finite_of_le {x : Binary64} {n : Nat} (small : n ≤ 2 ^ 53) (least : ofInt 0 ≤ x)
    (most : x ≤ ofInt n) :
    ∃ negative units, x = finite negative units ∧ (negative = true → units = 0) ∧
      units ≤ n * one := by
  have up := (isNonNegative_iff x).mpr least
  rw [ofInt_natCast small] at most
  cases x with
  | nan => cases up
  | infinite negative =>
    cases negative with
    | true => cases up
    | false =>
      have beyond : (overflow : Int) ≤ (n * one : Nat) := (le_iff rfl rfl).mp most
      have fits : n * one < overflow :=
        (Nat.mul_le_mul_right one small).trans_lt (by decide +kernel)
      omega
  | finite negative units =>
    refine ⟨negative, units, rfl, ?_, ?_⟩
    · rintro rfl
      simpa [isNonNegative] using up
    · cases negative with
      | false => exact Int.ofNat_le.mp ((le_iff rfl rfl).mp most)
      | true =>
        have zero : units = 0 := by simpa [isNonNegative] using up
        rw [zero]
        exact Nat.zero_le _

/-- Numbers that are not below zero are in the order of their units. -/
theorem units_le_of_le {s t : Bool} {m n : Nat} (up : s = true → m = 0) (le : finite s m ≤ finite t n)
    (above : t = true → n = 0) : m ≤ n := by
  cases s with
  | true =>
    rw [up rfl]
    exact Nat.zero_le n
  | false =>
    have placed : (m : Int) ≤ signed t n := (le_iff rfl rfl).mp le
    cases t with
    | true =>
      rw [above rfl] at placed ⊢
      exact Int.ofNat_le.mp placed
    | false => exact Int.ofNat_le.mp placed

end QueryPipeline.Number.Binary64
