import QueryPipeline.Number.Binary64
import Mathlib.Algebra.Order.Floor.Div
import Mathlib.Tactic.Ring

/-!
# Rounding to the nearest number

A quotient is rounded by way of the whole number nearest to a multiple of it. What is proved here is
all that rounding is used for: it never crosses a count of units that the format holds exactly, so a
bound of that kind on the exact quotient is a bound on the rounded one. Whole numbers up to `2 ^ 53`
and powers of two are held exactly. For quotients of whole numbers up to `2 ^ 53` more is true: one
above a positive whole number stays above it.
-/

namespace QueryPipeline.Number.Binary64

/-- A count of units that the format holds exactly: its low bits beyond 53 are zero. -/
def IsExact (units : Nat) : Prop := 2 ^ spareBits units ∣ units

/-- The whole number nearest to a quotient is the one below it or the next. -/
theorem nearestWhole_bounds (num den : Nat) :
    num / den ≤ nearestWhole num den ∧ nearestWhole num den ≤ num / den + 1 := by
  rw [nearestWhole]
  split
  · omega
  · split <;> omega

/-- The whole number nearest to a whole quotient is the quotient. -/
theorem nearestWhole_of_dvd {num den : Nat} (positive : 0 < den) (divides : num % den = 0) :
    nearestWhole num den = num / den := by
  rw [nearestWhole, divides, if_pos (by omega)]

/-- A whole number below a quotient is below the whole number nearest to it. -/
theorem le_nearestWhole {num den bound : Nat} (positive : 0 < den) (below : bound * den ≤ num) :
    bound ≤ nearestWhole num den :=
  ((Nat.le_div_iff_mul_le positive).mpr below).trans (nearestWhole_bounds num den).1

/-- A whole number above a quotient is above the whole number nearest to it. -/
theorem nearestWhole_le {num den bound : Nat} (positive : 0 < den) (above : num ≤ bound * den) :
    nearestWhole num den ≤ bound := by
  have low : num / den ≤ bound := Nat.div_le_of_le_mul (by rwa [Nat.mul_comm])
  rcases low.lt_or_eq with less | same
  · have next := (nearestWhole_bounds num den).2
    omega
  · have parts := Nat.div_add_mod num den
    rw [same, Nat.mul_comm] at parts
    rw [nearestWhole_of_dvd positive (by omega), same]

/-- A whole number more than a half below a quotient is below the whole number nearest to it. -/
theorem lt_nearestWhole {num den bound : Nat} (positive : 0 < den)
    (below : (2 * bound + 1) * den < 2 * num) : bound < nearestWhole num den := by
  have low : bound ≤ num / den := by
    refine (Nat.le_div_iff_mul_le positive).mpr ?_
    rw [Nat.add_mul, Nat.mul_assoc] at below
    omega
  rcases low.lt_or_eq with less | same
  · exact less.trans_le (nearestWhole_bounds num den).1
  · have parts := Nat.div_add_mod num den
    have upper : den < 2 * (num % den) := by
      rw [Nat.add_mul, Nat.mul_assoc, same, Nat.mul_comm (num / den)] at below
      omega
    rw [nearestWhole, if_neg (by omega), if_pos upper]
    omega

/-- The step between counts of units near a quotient. -/
def stepOf (units : Nat) : Nat := 2 ^ spareBits units

theorem stepOf_pos (units : Nat) : 0 < stepOf units := Nat.two_pow_pos _

/-- The nearest count is a whole number of steps. -/
theorem nearest_eq (num den : Nat) :
    nearest num den =
      nearestWhole num (den * stepOf (num / den)) * stepOf (num / den) := rfl

/-- A greater number has no fewer binary digits. -/
theorem log2_le_log2 {small great : Nat} (le : small ≤ great) : small.log2 ≤ great.log2 := by
  by_cases zero : small = 0
  · rw [zero, Nat.log2_zero]
    exact Nat.zero_le _
  · exact (Nat.le_log2 (by omega)).mpr ((Nat.log2_self_le zero).trans le)

/-- The steps near smaller counts divide those near greater ones. -/
theorem stepOf_dvd_stepOf {small great : Nat} (le : small ≤ great) :
    stepOf small ∣ stepOf great := by
  have logs : small.log2 ≤ great.log2 := log2_le_log2 le
  refine Nat.pow_dvd_pow 2 ?_
  rw [spareBits, spareBits]
  omega

/-- A step is no more than the power of two that its counts start at. -/
theorem stepOf_dvd_two_pow_log2 (units : Nat) : stepOf units ∣ 2 ^ units.log2 :=
  Nat.pow_dvd_pow 2 (Nat.sub_le _ _)

/-- A quotient below a count that is a whole number of steps is rounded to at most that count. -/
theorem nearest_le_of_dvd {num den units : Nat} (positive : 0 < den)
    (divides : stepOf (num / den) ∣ units) (above : num ≤ units * den) :
    nearest num den ≤ units := by
  obtain ⟨steps, rfl⟩ := divides
  have stepped : num ≤ steps * (den * stepOf (num / den)) := by
    calc num ≤ stepOf (num / den) * steps * den := above
      _ = steps * (den * stepOf (num / den)) := by ring
  have whole := nearestWhole_le (Nat.mul_pos positive (stepOf_pos _)) stepped
  rw [nearest_eq, Nat.mul_comm]
  exact Nat.mul_le_mul_left _ whole

/-- A quotient above a count that is a whole number of steps is rounded to at least that count. -/
theorem le_nearest_of_dvd {num den units : Nat} (positive : 0 < den)
    (divides : stepOf (num / den) ∣ units) (below : units * den ≤ num) :
    units ≤ nearest num den := by
  obtain ⟨steps, rfl⟩ := divides
  have stepped : steps * (den * stepOf (num / den)) ≤ num := by
    calc steps * (den * stepOf (num / den)) = stepOf (num / den) * steps * den := by ring
      _ ≤ num := below
  have whole := le_nearestWhole (Nat.mul_pos positive (stepOf_pos _)) stepped
  rw [nearest_eq, Nat.mul_comm _ (stepOf _)]
  exact Nat.mul_le_mul_left _ whole

/-- A quotient is not rounded above a count that is held exactly and that it is not above. -/
theorem nearest_le {num den units : Nat} (positive : 0 < den) (exact : IsExact units)
    (above : num ≤ units * den) : nearest num den ≤ units := by
  have quotient : num / den ≤ units := Nat.div_le_of_le_mul (by rwa [Nat.mul_comm])
  exact nearest_le_of_dvd positive ((stepOf_dvd_stepOf quotient).trans exact) above

/-- A quotient is rounded to at least the power of two that it starts at. -/
theorem two_pow_log2_le_nearest {num den : Nat} (positive : 0 < den) (nonzero : num / den ≠ 0) :
    2 ^ (num / den).log2 ≤ nearest num den := by
  have start : 2 ^ (num / den).log2 ≤ num / den := Nat.log2_self_le nonzero
  exact le_nearest_of_dvd positive (stepOf_dvd_two_pow_log2 _)
    ((Nat.le_div_iff_mul_le positive).mp start)

/-- A quotient is not rounded below a count that is held exactly and that it is not below. -/
theorem le_nearest {num den units : Nat} (positive : 0 < den) (exact : IsExact units)
    (below : units * den ≤ num) : units ≤ nearest num den := by
  have quotient : units ≤ num / den := (Nat.le_div_iff_mul_le positive).mpr below
  rcases (log2_le_log2 quotient).lt_or_eq with less | same
  · have nonzero : num / den ≠ 0 := by
      intro zero
      rw [zero] at less
      simp at less
    have start : units < 2 ^ (num / den).log2 :=
      Nat.lt_log2_self.trans_le (Nat.pow_le_pow_right (by decide) less)
    exact start.le.trans (two_pow_log2_le_nearest positive nonzero)
  · have steps : stepOf (num / den) = stepOf units := by
      rw [stepOf, stepOf, spareBits, spareBits, same]
    exact le_nearest_of_dvd positive (steps ▸ exact) below

/-- A quotient that is held exactly is not rounded. -/
theorem nearest_of_isExact {units den : Nat} (positive : 0 < den) (exact : IsExact units) :
    nearest (units * den) den = units :=
  (nearest_le positive exact le_rfl).antisymm (le_nearest positive exact le_rfl)

/-- Powers of two are held exactly. -/
theorem isExact_two_pow (exponent : Nat) : IsExact (2 ^ exponent) := by
  rw [IsExact, spareBits, Nat.log2_two_pow]
  exact Nat.pow_dvd_pow 2 (Nat.sub_le _ _)

/-- Multiples of a power of two with few significant bits are held exactly. -/
theorem isExact_mul_two_pow {n : Nat} (small : n ≤ 2 ^ 53) (exponent : Nat) :
    IsExact (n * 2 ^ exponent) := by
  by_cases zero : n = 0
  · rw [zero, Nat.zero_mul]
    exact Nat.dvd_zero _
  · rcases small.lt_or_eq with less | rfl
    · have log : (n * 2 ^ exponent).log2 < 53 + exponent := by
        refine (Nat.log2_lt (Nat.mul_ne_zero zero (Nat.two_pow_pos _).ne')).mpr ?_
        rw [Nat.pow_add]
        exact Nat.mul_lt_mul_of_pos_right less (Nat.two_pow_pos _)
      refine (Nat.pow_dvd_pow 2 ?_).trans (Nat.dvd_mul_left _ _)
      rw [spareBits]
      omega
    · rw [← Nat.pow_add]
      exact isExact_two_pow _

/-- The exponent of the number one in units. -/
def oneExponent : Nat := 1074

/-- The number one is a power of two in units. -/
theorem one_eq : one = 2 ^ oneExponent := by decide +kernel

theorem one_pos : 0 < one := by
  rw [one_eq]
  exact Nat.two_pow_pos oneExponent

/-- Whole numbers up to `2 ^ 53` are held exactly. -/
theorem isExact_mul_one {n : Nat} (small : n ≤ 2 ^ 53) : IsExact (n * one) := by
  rw [one_eq]
  exact isExact_mul_two_pow small oneExponent

/-- A step near counts of at least 53 bits is their first power of two without 52 bits. -/
theorem stepOf_mul {units : Nat} (long : 2 ^ 52 ≤ units) :
    stepOf units * 2 ^ 52 = 2 ^ units.log2 := by
  have nonzero : units ≠ 0 := by
    have some : 0 < 2 ^ 52 := Nat.two_pow_pos 52
    omega
  have log : 52 ≤ units.log2 := (Nat.le_log2 nonzero).mpr long
  rw [stepOf, spareBits, ← Nat.pow_add, Nat.sub_add_cancel log]

/-- A step near a quotient of at least 53 bits is small beside what is divided. -/
theorem mul_stepOf_le {num den : Nat} (divisor : 0 < den) (long : 2 ^ 52 ≤ num / den) :
    den * stepOf (num / den) * 2 ^ 52 ≤ num := by
  have nonzero : num / den ≠ 0 := by
    have some : 0 < 2 ^ 52 := Nat.two_pow_pos 52
    omega
  rw [Nat.mul_assoc, stepOf_mul long, Nat.mul_comm]
  exact (Nat.le_div_iff_mul_le divisor).mp (Nat.log2_self_le nonzero)

/-- Where a step spans at most two units of a numerator up to `2 ^ 53` and at least a unit of it is
left after some steps, the rest is more than half a step. -/
theorem half_lt {num step steps : Nat} (small : num ≤ 2 ^ 53)
    (span : step * 2 ^ 52 ≤ num * one) (rest : steps * step + one ≤ num * one) :
    (2 * steps + 1) * step < 2 * (num * one) := by
  have most : num * one ≤ 2 ^ 53 * one := Nat.mul_le_mul_right one small
  have parts : (2 * steps + 1) * step = 2 * (steps * step) + step := by ring
  rw [parts]
  by_contra close
  have two : step = 2 * one := by omega
  have full : num * one = 2 ^ 53 * one := by omega
  have odd : num * one = (2 * steps + 1) * one := by
    have left : steps * step = 2 * steps * one := by rw [two]; ring
    have next : (2 * steps + 1) * one = 2 * steps * one + one := by ring
    omega
  have same : 2 ^ 53 = 2 * steps + 1 := Nat.eq_of_mul_eq_mul_right one_pos (full.symm.trans odd)
  omega

/-- A quotient of a whole number up to `2 ^ 53` that is above a positive whole number is rounded to
a number above it: it is more than half a step away, or the step leads beyond the whole number. -/
theorem lt_nearest_of_mul_lt {num den whole : Nat} (positive : 0 < whole) (small : num ≤ 2 ^ 53)
    (above : whole * den < num) (divisor : 0 < den) : whole * one < nearest (num * one) den := by
  let quotient := num * one / den
  have low : whole * one ≤ quotient := by
    refine (Nat.le_div_iff_mul_le divisor).mpr ?_
    calc whole * one * den = whole * den * one := by ring
      _ ≤ num * one := Nat.mul_le_mul_right one above.le
  have least : one ≤ quotient := (Nat.le_mul_of_pos_left one positive).trans low
  have long : 2 ^ 52 ≤ quotient := (show 2 ^ 52 ≤ one by decide +kernel).trans least
  have nonzero : quotient ≠ 0 := by
    have some := one_pos
    omega
  by_cases crossed : whole * one < 2 ^ quotient.log2
  · exact crossed.trans_le (two_pow_log2_le_nearest divisor nonzero)
  · have logs : (whole * one).log2 = quotient.log2 := by
      have some : whole * one ≠ 0 := (Nat.mul_pos positive one_pos).ne'
      exact (log2_le_log2 low).antisymm ((Nat.le_log2 some).mpr (Nat.le_of_not_lt crossed))
    have exact : stepOf quotient ∣ whole * one := by
      rw [stepOf, spareBits, ← logs]
      refine isExact_mul_one ((Nat.le_mul_of_pos_right whole divisor).trans ?_)
      omega
    obtain ⟨steps, same⟩ := exact
    -- A step of the quotient spans at most two units of the numerator, and only just so many where
    -- the numerator is `2 ^ 53`, which is even.
    have span : den * stepOf quotient * 2 ^ 52 ≤ num * one := mul_stepOf_le divisor long
    have rest : steps * (den * stepOf quotient) + one ≤ num * one := by
      calc steps * (den * stepOf quotient) + one
          = den * (stepOf quotient * steps) + one := by ring
        _ = (whole * den + 1) * one := by rw [← same]; ring
        _ ≤ num * one := Nat.mul_le_mul_right one above
    have half : (2 * steps + 1) * (den * stepOf quotient) < 2 * (num * one) :=
      half_lt small span rest
    have whole := lt_nearestWhole (Nat.mul_pos divisor (stepOf_pos _)) half
    rw [nearest_eq, same, Nat.mul_comm]
    exact Nat.mul_lt_mul_of_pos_right whole (stepOf_pos _)

/-- A quotient of a whole number up to `2 ^ 53` that is not above a whole number is rounded to a
number that is not above it either. -/
theorem nearest_le_of_le_mul {num den whole : Nat} (small : num ≤ 2 ^ 53) (divisor : 0 < den)
    (below : num ≤ whole * den) : nearest (num * one) den ≤ whole * one := by
  have bounded : ∀ {bound : Nat}, bound ≤ 2 ^ 53 → num ≤ bound * den →
      nearest (num * one) den ≤ bound * one := by
    intro bound short within
    refine nearest_le divisor (isExact_mul_one short) ?_
    calc num * one ≤ bound * den * one := Nat.mul_le_mul_right one within
      _ = bound * one * den := by ring
  by_cases short : whole ≤ 2 ^ 53
  · exact bounded short below
  · have most := bounded le_rfl (small.trans (Nat.le_mul_of_pos_right _ divisor))
    exact most.trans (Nat.mul_le_mul_right one (Nat.le_of_not_le short))

/-- A quotient is rounded to a finite number where it is not above one that is held exactly. -/
theorem round_of_le {negative : Bool} {num den bound : Nat} (divisor : 0 < den)
    (exact : IsExact bound) (fits : bound < overflow) (below : num ≤ bound * den) :
    round negative num den = finite negative (nearest num den) := by
  rw [round]
  exact if_pos ((nearest_le divisor exact below).trans_lt fits)

/-- The units of the greatest finite number. -/
def greatest : Nat := (2 ^ 53 - 1) * 2 ^ 2045

theorem isExact_greatest : IsExact greatest := isExact_mul_two_pow (by decide) 2045

theorem greatest_lt_overflow : greatest < overflow := by decide +kernel

/-- A quotient is rounded to a finite number where it is not above the greatest one. -/
theorem round_of_le_greatest {negative : Bool} {num den : Nat} (divisor : 0 < den)
    (below : num ≤ greatest * den) : round negative num den = finite negative (nearest num den) :=
  round_of_le divisor isExact_greatest greatest_lt_overflow below

theorem isExact_overflow : IsExact overflow :=
  show 2 ^ spareBits overflow ∣ overflow by decide +kernel

/-- A quotient of natural numbers is rounded without a sign. -/
theorem ofQuotient_eq_round (num den : Nat) : ofQuotient num den = round false (num * one) den := by
  have signs : (decide ((num : Int) < 0) != decide ((den : Int) < 0)) = false := by
    rw [decide_eq_false (Int.not_lt.mpr (Int.natCast_nonneg num)),
      decide_eq_false (Int.not_lt.mpr (Int.natCast_nonneg den))]
    rfl
  rw [ofQuotient, signs, Int.natAbs_natCast, Int.natAbs_natCast, ofRatio]

/-- A quotient of a whole number up to `2 ^ 53` by a positive one is finite and not negative. -/
theorem ofQuotient_natCast {num den : Nat} (small : num ≤ 2 ^ 53) (divisor : 0 < den) :
    ofQuotient num den = finite false (nearest (num * one) den) := by
  have fits : 2 ^ 53 * one < overflow := by decide +kernel
  have below : num * one ≤ 2 ^ 53 * one * den :=
    (Nat.mul_le_mul_right one small).trans (Nat.le_mul_of_pos_right _ divisor)
  rw [ofQuotient_eq_round]
  exact round_of_le divisor (isExact_mul_one le_rfl) fits below

/-- Whole numbers up to `2 ^ 53` are not rounded, whatever their sign. -/
theorem ofInt_of_natAbs_le {n : Int} (small : n.natAbs ≤ 2 ^ 53) :
    ofInt n = finite (n < 0) (n.natAbs * one) := by
  have exact := isExact_mul_one small
  have fits : n.natAbs * one < overflow :=
    (Nat.mul_le_mul_right one small).trans_lt (by decide +kernel)
  have same := nearest_of_isExact Nat.one_pos exact
  rw [Nat.mul_one] at same
  rw [ofInt, ofRatio, round_of_le Nat.one_pos exact fits (Nat.mul_one _).ge, same]

/-- Whole numbers up to `2 ^ 53` are not rounded. -/
theorem ofInt_natCast {n : Nat} (small : n ≤ 2 ^ 53) : ofInt n = finite false (n * one) := by
  have sign : decide ((n : Int) < 0) = false :=
    decide_eq_false (Int.not_lt.mpr (Int.natCast_nonneg n))
  rw [ofInt_of_natAbs_le (n := n) small, sign, Int.natAbs_natCast]

/-- A quotient that is rounded to a finite number is rounded to one of the format. -/
theorem lt_overflow_of_round {negative sign : Bool} {num den units : Nat}
    (rounded : round negative num den = finite sign units) : units < overflow := by
  rw [round] at rounded
  split at rounded
  · next fits =>
    cases rounded
    exact fits
  · cases rounded

/-- A quotient by a whole number that is finite is a number of the format. -/
theorem lt_overflow_of_divNat {x : Binary64} {n : Nat} {sign : Bool} {units : Nat}
    (divided : x.divNat n = finite sign units) : units < overflow := by
  cases x with
  | nan | infinite => cases divided
  | finite negative count =>
    rw [divNat] at divided
    exact lt_overflow_of_round divided

/-- A whole number below a finite number has at most as many ones as the number begins. -/
theorem natAbs_floor_le {x : Binary64} {n : Int} (rounded : floor x = .ok n) :
    ∃ sign units, x = finite sign units ∧ n.natAbs ≤ (units + one - 1) / one := by
  cases x with
  | nan | infinite => cases rounded
  | finite sign units =>
    refine ⟨sign, units, rfl, ?_⟩
    have least : units / one ≤ (units + one - 1) / one := by
      have positive := one_pos
      exact Nat.div_le_div_right (by omega)
    cases Except.ok.inj rounded
    cases sign with
    | false => exact least
    | true => rw [if_pos rfl, Int.natAbs_neg, Int.natAbs_natCast]

/-- A whole number above a finite number has at most as many ones as the number begins. -/
theorem natAbs_ceil_le {x : Binary64} {n : Int} (rounded : ceil x = .ok n) :
    ∃ sign units, x = finite sign units ∧ n.natAbs ≤ (units + one - 1) / one := by
  rw [ceil] at rounded
  obtain ⟨m, below, rfl⟩ : ∃ m, floor (neg x) = .ok m ∧ -m = n := by
    cases below : floor (neg x) with
    | error fault =>
      rw [below] at rounded
      cases rounded
    | ok m =>
      rw [below] at rounded
      exact ⟨m, rfl, Except.ok.inj rounded⟩
  obtain ⟨sign, units, same, bound⟩ := natAbs_floor_le below
  cases x with
  | nan | infinite => cases same
  | finite negative count =>
    cases same
    exact ⟨negative, units, rfl, by rwa [Int.natAbs_neg]⟩

/-- A finite number is zero or above where it is not below zero. -/
theorem isNonNegative_finite (negative : Bool) (units : Nat) :
    (finite negative units).isNonNegative = !(finite negative units).isNegative := by
  rw [isNonNegative, isNegative, Bool.not_and, bne, Bool.not_not]

/-- The least whole number that is not below a number, in units. -/
theorem ceil_finite (units : Nat) :
    ceil (finite false units) = .ok ((units + one - 1) / one : Nat) := by
  rw [ceil, neg, floor, Bool.not_false, if_pos rfl, Except.map, Int.neg_neg]

/-- A number that is not above zero, or no number. -/
def IsNotPositive (x : Binary64) : Prop := ∀ units, x = finite false units → units = 0

/-- Nothing is rounded to nothing. -/
theorem nearest_zero (den : Nat) : nearest 0 den = 0 := by
  rw [nearest, nearestWhole, Nat.zero_div, Nat.zero_mod, Nat.zero_div]
  simp

/-- A quotient with a minus sign is rounded to a number that is not above zero. -/
theorem isNotPositive_round_true (num den : Nat) : (round true num den).IsNotPositive := by
  intro units same
  rw [round] at same
  split at same <;> cases same

/-- A quotient of nothing is rounded to a number that is not above zero. -/
theorem isNotPositive_round_zero (negative : Bool) (den : Nat) :
    (round negative 0 den).IsNotPositive := by
  intro units same
  simp only [round, nearest_zero] at same
  split at same
  · injection same with _ zero
    exact zero.symm
  · cases same

/-- The product of a finite number below zero and one that is not is not above zero. -/
theorem isNotPositive_mul {units : Nat} {x : Binary64} (up : x.isNonNegative = true) :
    ((finite true units).mul x).IsNotPositive := by
  cases x with
  | nan => cases up
  | infinite negative =>
    intro count same
    rw [mul] at same
    split at same <;> cases same
  | finite negative count =>
    rw [mul]
    cases negative with
    | false => exact isNotPositive_round_true _ _
    | true =>
      have zero : count = 0 := by simpa [isNonNegative] using up
      rw [zero, Nat.mul_zero]
      exact isNotPositive_round_zero _ _

/-- The quotient of a number that is not above zero by a positive whole number is not either. -/
theorem isNotPositive_divNat {x : Binary64} (low : x.IsNotPositive) (n : Nat) :
    (x.divNat n).IsNotPositive := by
  cases x with
  | nan | infinite =>
    intro units same
    cases same
  | finite negative units =>
    rw [divNat]
    cases negative with
    | true => exact isNotPositive_round_true _ _
    | false =>
      rw [low units rfl]
      exact isNotPositive_round_zero _ _

/-- The whole number below a number that is not above zero is not either. -/
theorem floor_le_zero {x : Binary64} (low : x.IsNotPositive) {n : Int}
    (rounded : floor x = .ok n) : n ≤ 0 := by
  cases x with
  | nan | infinite => cases rounded
  | finite negative units =>
    rw [floor, Except.ok.injEq] at rounded
    cases negative with
    | true =>
      rw [if_pos rfl] at rounded
      exact rounded ▸ Int.neg_nonpos_of_nonneg (Int.natCast_nonneg _)
    | false =>
      rw [low units rfl, if_neg Bool.false_ne_true, Nat.zero_div] at rounded
      exact rounded.ge

/-- The whole number above a number that is not above zero is not either. -/
theorem ceil_le_zero {x : Binary64} (low : x.IsNotPositive) {n : Int}
    (rounded : ceil x = .ok n) : n ≤ 0 := by
  cases x with
  | nan | infinite => cases rounded
  | finite negative units =>
    cases negative with
    | true =>
      rw [ceil, neg, floor, Bool.not_true, if_neg Bool.false_ne_true, Except.map,
        Except.ok.injEq] at rounded
      exact rounded ▸ Int.neg_nonpos_of_nonneg (Int.natCast_nonneg _)
    | false =>
      have none : (0 + one - 1) / one = 0 :=
        Nat.div_eq_of_lt (by rw [Nat.zero_add]; exact Nat.sub_lt one_pos Nat.one_pos)
      rw [low units rfl, ceil_finite, none, Except.ok.injEq] at rounded
      exact rounded.ge

/-- A number that is not zero or above is so when its sign is changed, unless it is no number. -/
theorem isNonNegative_neg {x : Binary64} (down : x.isNonNegative = false) :
    x = nan ∨ x.neg.isNonNegative = true := by
  cases x with
  | nan => exact .inl rfl
  | infinite negative | finite negative units =>
    cases negative with
    | false => cases down
    | true => exact .inr rfl

/-- A whole number is below the least one that is not below a number exactly where it is below that
number. -/
theorem lt_ceil_iff {whole units : Nat} :
    whole < (units + one - 1) / one ↔ whole * one < units := by
  have positive := one_pos
  have next : (whole + 1) * one = whole * one + one := by ring
  rw [← Nat.succ_le_iff, Nat.le_div_iff_mul_le positive, Nat.succ_eq_add_one, next]
  omega

end QueryPipeline.Number.Binary64
