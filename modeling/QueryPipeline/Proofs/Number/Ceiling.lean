import QueryPipeline.Proofs.Number.Order

/-!
# Whole numbers above rounded quotients

The whole number above a rounded quotient of whole numbers is not always the one above the quotient
itself. Below `2 ^ 53` a quotient can only be rounded down to a whole number that it is above, where
it is at most half a step away from it. From there on only some whole numbers are held at all, and
the one above the quotient is found exactly where it is among them. A quotient is too large to be
rounded from the middle between the greatest number and the power of two after it on.
-/

namespace QueryPipeline.Number.Binary64

section

variable {num den bound : Nat}

/-- A whole number is below the whole number nearest to a quotient exactly where the quotient is
more than a half above it, or a half and the whole number is odd. -/
theorem lt_nearestWhole_iff (positive : 0 < den) :
    bound < nearestWhole num den ↔
      (2 * bound + 1) * den < 2 * num ∨ (2 * bound + 1) * den = 2 * num ∧ bound % 2 = 1 := by
  have parts := Nat.div_add_mod num den
  have rest := Nat.mod_lt num positive
  have cut : (2 * bound + 1) * den = 2 * (den * bound) + den := by ring
  rcases Nat.lt_trichotomy bound (num / den) with less | same | more
  · have low := (nearestWhole_bounds num den).1
    have step : den * bound + den ≤ den * (num / den) := by
      calc den * bound + den = den * (bound + 1) := by ring
        _ ≤ den * (num / den) := Nat.mul_le_mul_left den less
    refine iff_of_true (by omega) (.inl ?_)
    omega
  · subst same
    rw [nearestWhole]
    split_ifs <;> omega
  · have high := (nearestWhole_bounds num den).2
    have step : den * (num / den) + den ≤ den * bound := by
      calc den * (num / den) + den = den * (num / den + 1) := by ring
        _ ≤ den * bound := Nat.mul_le_mul_left den more
    refine iff_of_false (by omega) ?_
    omega

/-- The whole number nearest to a quotient is not above an odd one exactly where the quotient is
less than a half above that. -/
theorem nearestWhole_le_iff_of_odd (positive : 0 < den) (odd : bound % 2 = 1) :
    nearestWhole num den ≤ bound ↔ 2 * num < (2 * bound + 1) * den := by
  have beyond : bound < nearestWhole num den ↔ _ := lt_nearestWhole_iff positive
  omega

/-- The number of binary digits of a number between two powers of two. -/
theorem log2_eq_of_le {n exponent : Nat} (low : 2 ^ exponent ≤ n) (high : n < 2 ^ (exponent + 1)) :
    n.log2 = exponent := by
  have nonzero : n ≠ 0 := (Nat.two_pow_pos exponent |>.trans_le low).ne'
  have least := (Nat.le_log2 nonzero).mpr low
  have most := (Nat.log2_lt nonzero).mpr high
  omega

/-- The units of the number one are more than 52 bits can count. -/
theorem two_pow_le_one : 2 ^ 52 ≤ one := by
  rw [one_eq]
  exact Nat.pow_le_pow_right Nat.two_pos (by decide)

/-- The least whole number that is too large to be rounded to a finite number. -/
def tooLarge : Nat := 2 ^ 1024 - 2 ^ 970

/-- The exponent of the greatest finite numbers in units. -/
@[irreducible] def greatestExponent : Nat := 2097

/-- The step between the greatest finite numbers. -/
def greatestStep : Nat := 2 ^ (greatestExponent - 52)

theorem greatestStep_pos : 0 < greatestStep := Nat.two_pow_pos (greatestExponent - 52)

/-- The greatest numbers start at a whole number of their steps. -/
theorem two_pow_greatestExponent : 2 ^ greatestExponent = 2 ^ 52 * greatestStep := by
  decide +kernel

/-- The bound of the format is the power of two after the greatest number. -/
theorem overflow_eq : overflow = 2 ^ (greatestExponent + 1) := by decide +kernel

/-- The bound of the format is a step above the greatest number. -/
theorem overflow_eq_mul : overflow = 2 ^ 53 * greatestStep := by
  rw [overflow_eq, Nat.pow_succ', two_pow_greatestExponent, ← Nat.mul_assoc, ← Nat.pow_succ']

/-- What is half a step above the greatest number is too large. -/
theorem tooLarge_mul_one : 2 * (tooLarge * one) = (2 * (2 ^ 53 - 1) + 1) * greatestStep := by
  decide +kernel

/-- Whole numbers of 63 bits are not too large. -/
theorem two_pow_lt_tooLarge : 2 ^ 63 < tooLarge := by decide +kernel

/-- A quotient of whole numbers is rounded to a finite number exactly where it is not too large. -/
theorem nearest_lt_overflow_iff (divisor : 0 < den) :
    nearest (num * one) den < overflow ↔ num < tooLarge * den := by
  obtain ⟨steps, stepped⟩ : ∃ steps, steps = den * greatestStep := ⟨_, rfl⟩
  have scaled : num < tooLarge * den ↔ 2 * (num * one) < (2 * (2 ^ 53 - 1) + 1) * steps := by
    have cut : (2 * (2 ^ 53 - 1) + 1) * steps = 2 * (tooLarge * den * one) := by
      calc (2 * (2 ^ 53 - 1) + 1) * steps
          = (2 * (2 ^ 53 - 1) + 1) * greatestStep * den := by rw [stepped]; ring
        _ = 2 * (tooLarge * den * one) := by rw [← tooLarge_mul_one]; ring
    rw [cut, Nat.mul_lt_mul_left Nat.two_pos, Nat.mul_lt_mul_right one_pos]
  have top : overflow * den = 2 ^ 53 * steps := by
    rw [stepped, overflow_eq_mul, Nat.mul_assoc, Nat.mul_comm greatestStep]
  have start : 2 ^ greatestExponent * den = 2 ^ 52 * steps := by
    rw [stepped, two_pow_greatestExponent, Nat.mul_assoc, Nat.mul_comm greatestStep]
  rw [scaled]
  rcases Nat.lt_or_ge (num * one / den) (2 ^ greatestExponent) with short | long
  · have within := (Nat.div_lt_iff_lt_mul divisor).mp short
    have rounded := nearest_le divisor (isExact_two_pow greatestExponent) within.le
    have fits : 2 ^ greatestExponent < overflow := by
      rw [overflow_eq]
      exact Nat.pow_lt_pow_succ Nat.one_lt_two
    exact iff_of_true (rounded.trans_lt fits) (by omega)
  rcases Nat.lt_or_ge (num * one / den) overflow with fits | above
  · have log := log2_eq_of_le long (overflow_eq ▸ fits)
    have step : stepOf (num * one / den) = greatestStep := by
      rw [stepOf, spareBits, log, greatestStep]
    rw [nearest_eq, step, overflow_eq_mul, Nat.mul_lt_mul_right greatestStep_pos, ← stepped]
    exact Nat.lt_succ_iff.trans
      (nearestWhole_le_iff_of_odd (stepped ▸ Nat.mul_pos divisor greatestStep_pos) (by decide))
  · have least := (Nat.le_div_iff_mul_le divisor).mp above
    have rounded := le_nearest divisor isExact_overflow least
    rw [top] at least
    exact iff_of_false (Nat.not_lt.mpr rounded) (by omega)

/-- What a quotient is rounded to is held exactly. -/
theorem isExact_nearest (divisor : 0 < den) : IsExact (nearest num den) := by
  have span : 2 ^ ((num / den).log2 + 1) ≤ 2 ^ 53 * stepOf (num / den) := by
    rw [stepOf, spareBits, ← Nat.pow_add]
    exact Nat.pow_le_pow_right Nat.two_pos (by omega)
  have within : num < 2 ^ ((num / den).log2 + 1) * den :=
    (Nat.div_lt_iff_lt_mul divisor).mp Nat.lt_log2_self
  have steps : num ≤ 2 ^ 53 * (den * stepOf (num / den)) := by
    calc num ≤ 2 ^ ((num / den).log2 + 1) * den := within.le
      _ ≤ 2 ^ 53 * stepOf (num / den) * den := Nat.mul_le_mul_right den span
      _ = 2 ^ 53 * (den * stepOf (num / den)) := by ring
  exact isExact_mul_two_pow (nearestWhole_le (Nat.mul_pos divisor (stepOf_pos _)) steps) _

/-- The step near a quotient of whole numbers below a power of two. -/
theorem stepOf_dvd_two_pow {exponent : Nat} (divisor : 0 < den) (short : num / den < 2 ^ exponent) :
    stepOf (num * one / den) ∣ 2 ^ (exponent + oneExponent - 53) := by
  have within : num * one / den < 2 ^ (exponent + oneExponent) := by
    rw [Nat.div_lt_iff_lt_mul divisor] at short ⊢
    calc num * one < 2 ^ exponent * den * one := Nat.mul_lt_mul_of_pos_right short one_pos
      _ = 2 ^ (exponent + oneExponent) * den := by rw [one_eq]; ring
  refine Nat.pow_dvd_pow 2 ?_
  rw [spareBits]
  by_cases zero : num * one / den = 0
  · rw [zero, Nat.log2_zero, Nat.zero_sub]
    exact Nat.zero_le _
  · have log := (Nat.log2_lt zero).mpr within
    omega

/-- Near quotients of whole numbers below `2 ^ 53` whole numbers are whole numbers of steps. -/
theorem stepOf_dvd_one (divisor : 0 < den) (short : num / den < 2 ^ 53) :
    stepOf (num * one / den) ∣ one := by
  have divides := stepOf_dvd_two_pow divisor short
  rwa [Nat.add_sub_cancel_left, ← one_eq] at divides

/-- Near quotients below `2 ^ 52` they are even numbers of steps. -/
theorem two_mul_stepOf_dvd_one (divisor : 0 < den) (short : num / den < 2 ^ 52) :
    2 * stepOf (num * one / den) ∣ one := by
  have divides := Nat.mul_dvd_mul_left 2 (stepOf_dvd_two_pow divisor short)
  have exponents : (52 + oneExponent - 53).succ = oneExponent := by decide
  have half : 2 * 2 ^ (52 + oneExponent - 53) = one := by
    rw [one_eq, ← Nat.pow_succ', exponents]
  rwa [half] at divides

/-- The step near a quotient that is not below a power of two. -/
theorem two_pow_dvd_stepOf {exponent : Nat} (divisor : 0 < den) (long : 2 ^ exponent ≤ num / den) :
    2 ^ (exponent + oneExponent - 52) ∣ stepOf (num * one / den) := by
  have above : 2 ^ (exponent + oneExponent) ≤ num * one / den := by
    rw [Nat.le_div_iff_mul_le divisor] at long ⊢
    calc 2 ^ (exponent + oneExponent) * den = 2 ^ exponent * den * one := by rw [one_eq]; ring
      _ ≤ num * one := Nat.mul_le_mul_right one long
  have nonzero : num * one / den ≠ 0 := ((Nat.two_pow_pos _).trans_le above).ne'
  have log := (Nat.le_log2 nonzero).mpr above
  refine Nat.pow_dvd_pow 2 ?_
  rw [spareBits]
  omega

/-- From `2 ^ 52` on a step is at least one. -/
theorem one_dvd_stepOf (divisor : 0 < den) (long : 2 ^ 52 ≤ num / den) :
    one ∣ stepOf (num * one / den) := by
  have divides := two_pow_dvd_stepOf divisor long
  rwa [Nat.add_sub_cancel_left, ← one_eq] at divides

/-- From `2 ^ 53` on a step is at least two. -/
theorem two_mul_one_dvd_stepOf (divisor : 0 < den) (long : 2 ^ 53 ≤ num / den) :
    2 * one ∣ stepOf (num * one / den) := by
  have divides := two_pow_dvd_stepOf divisor long
  have exponents : 53 + oneExponent - 52 = oneExponent + 1 := by decide
  have double : 2 ^ (53 + oneExponent - 52) = 2 * one := by
    rw [exponents, Nat.pow_succ', one_eq]
  rwa [double] at divides

/-- A whole number is below what a quotient under `2 ^ 53` is rounded to exactly where the quotient
is more than half a step above it, or half a step and the whole number is an odd number of steps. -/
theorem mul_one_lt_nearest_iff (divisor : 0 < den) (short : num / den < 2 ^ 53) {whole : Nat} :
    whole * one < nearest (num * one) den ↔
      2 * (whole * den * one) + den * stepOf (num * one / den) < 2 * (num * one) ∨
        2 * (whole * den * one) + den * stepOf (num * one / den) = 2 * (num * one) ∧
          whole * one / stepOf (num * one / den) % 2 = 1 := by
  obtain ⟨parts, same⟩ := stepOf_dvd_one divisor short
  have positive := stepOf_pos (num * one / den)
  rw [nearest_eq]
  generalize stepOf (num * one / den) = step at same positive ⊢
  have counted : whole * one = whole * parts * step := by rw [same]; ring
  have half : (2 * (whole * parts) + 1) * (den * step) = 2 * (whole * den * one) + den * step := by
    rw [same]
    ring
  rw [counted, Nat.mul_lt_mul_right positive, Nat.mul_div_cancel _ positive,
    lt_nearestWhole_iff (Nat.mul_pos divisor positive), half]

/-- Where steps are at least two, the whole number above a quotient is what it is rounded to, if it
is held at all. -/
theorem nearest_eq_ceilDiv_iff (divisor : 0 < den) (long : 2 ^ 53 ≤ num / den) :
    nearest (num * one) den = num ⌈/⌉ den * one ↔ IsExact (num ⌈/⌉ den * one) := by
  constructor
  · intro same
    exact same ▸ isExact_nearest divisor
  intro held
  have least : num ≤ den * (num ⌈/⌉ den) := (ceilDiv_le_iff_le_mul divisor).mp le_rfl
  have most : den * (num ⌈/⌉ den) < num + den := by
    rw [Nat.ceilDiv_eq_add_pred_div]
    have quotient := Nat.mul_div_le (num + den - 1) den
    omega
  generalize num ⌈/⌉ den = whole at held least most ⊢
  have above : num * one ≤ whole * one * den := by
    calc num * one ≤ den * whole * one := Nat.mul_le_mul_right one least
      _ = whole * one * den := by ring
  refine (nearest_le divisor held above).antisymm ?_
  have quotient : num * one / den ≤ whole * one :=
    Nat.div_le_of_le_mul (above.trans_eq (Nat.mul_comm _ den))
  have divides : stepOf (whole * one) ∣ whole * one := held
  obtain ⟨count, counted⟩ := (stepOf_dvd_stepOf quotient).trans divides
  have wide := Nat.le_of_dvd (stepOf_pos _) (two_mul_one_dvd_stepOf divisor long)
  have positive := stepOf_pos (num * one / den)
  rw [nearest_eq, counted, Nat.mul_comm (nearestWhole _ _)]
  generalize stepOf (num * one / den) = step at counted wide positive ⊢
  refine Nat.mul_le_mul_left step ?_
  -- The quotient is less than one below the whole number, which is at most half a step.
  have near : den * step * count < num * one + den * one := by
    calc den * step * count = den * (whole * one) := by rw [counted]; ring
      _ = den * whole * one := by ring
      _ < (num + den) * one := Nat.mul_lt_mul_of_pos_right most one_pos
      _ = num * one + den * one := by ring
  have half : 2 * (den * one) ≤ den * step := by
    calc 2 * (den * one) = den * (2 * one) := by ring
      _ ≤ den * step := Nat.mul_le_mul_left den wide
  cases count with
  | zero => exact Nat.zero_le _
  | succ count =>
    refine (lt_nearestWhole_iff (Nat.mul_pos divisor positive)).mpr (.inl ?_)
    have before : (2 * count + 1) * (den * step) + den * step = 2 * (den * step * (count + 1)) := by
      ring
    omega

/-- The whole number above a whole quotient is the quotient. -/
theorem ceilDiv_of_mod_eq_zero (divisor : 0 < den) (whole : num % den = 0) :
    num ⌈/⌉ den = num / den := by
  have parts := Nat.div_add_mod num den
  refine Nat.div_eq_of_lt_le ?_ ?_
  · rw [Nat.mul_comm]
    omega
  · rw [Nat.add_mul, Nat.mul_comm (num / den)]
    omega

/-- The whole number above a quotient that is not whole is the one after that below it. -/
theorem ceilDiv_of_mod_ne_zero (divisor : 0 < den) (rest : num % den ≠ 0) :
    num ⌈/⌉ den = num / den + 1 := by
  have parts := Nat.div_add_mod num den
  have less := Nat.mod_lt num divisor
  refine Nat.div_eq_of_lt_le ?_ ?_
  · rw [Nat.add_mul, Nat.mul_comm (num / den)]
    omega
  · rw [Nat.add_mul, Nat.add_mul, Nat.mul_comm (num / den)]
    omega

/-- What is needed for the whole number above a quotient to be the one above what the quotient is
rounded to. -/
structure CeilIsTold (num den : Nat) : Prop where
  /-- The whole number is held exactly. -/
  held : IsExact (num ⌈/⌉ den * one)
  /-- Below `2 ^ 53` a quotient that is not whole is more than half a step above the whole number
  below it, or in the middle between an odd whole number and the next. -/
  apart : num % den ≠ 0 → num / den < 2 ^ 53 →
    den * stepOf (num * one / den) < 2 * (num % den * one) ∨
      den = 2 * (num % den) ∧ num / den % 2 = 1

/-- A quotient below `2 ^ 53` that is not whole is rounded to a number above the whole number below
it exactly where it is far enough apart from that. -/
theorem lt_nearest_iff_apart (divisor : 0 < den) (short : num / den < 2 ^ 53) :
    num / den * one < nearest (num * one) den ↔
      den * stepOf (num * one / den) < 2 * (num % den * one) ∨
        den = 2 * (num % den) ∧ num / den % 2 = 1 := by
  have cut : num * one = num / den * den * one + num % den * one := by
    calc num * one = (den * (num / den) + num % den) * one := by rw [Nat.div_add_mod]
      _ = num / den * den * one + num % den * one := by ring
  rw [mul_one_lt_nearest_iff divisor short]
  rcases Nat.lt_or_ge (num / den) (2 ^ 52) with less | long
  · -- Whole numbers are even numbers of steps here, and so is the number one.
    have most := Nat.le_of_dvd one_pos (two_mul_stepOf_dvd_one divisor less)
    obtain ⟨parts, same⟩ := two_mul_stepOf_dvd_one divisor less
    have positive := stepOf_pos (num * one / den)
    generalize stepOf (num * one / den) = step at most same positive ⊢
    have even : num / den * one / step % 2 = 0 := by
      have counted : num / den * one = num / den * parts * 2 * step := by rw [same]; ring
      rw [counted, Nat.mul_div_cancel _ positive, Nat.mul_mod_left]
    have middle : den = 2 * (num % den) → den * step < 2 * (num % den * one) := by
      intro half
      calc den * step < den * one := Nat.mul_lt_mul_of_pos_left (by omega) divisor
        _ = 2 * (num % den) * one := by rw [← half]
        _ = 2 * (num % den * one) := by ring
    constructor
    · rintro (above | ⟨-, odd⟩)
      · exact .inl (by omega)
      · omega
    · rintro (above | ⟨half, -⟩)
      · exact .inl (by omega)
      · have above := middle half
        exact .inl (by omega)
  · have single : stepOf (num * one / den) = one :=
      Nat.dvd_antisymm (stepOf_dvd_one divisor short) (one_dvd_stepOf divisor long)
    have middle : den * one = 2 * (num % den * one) ↔ den = 2 * (num % den) := by
      rw [← Nat.mul_assoc, Nat.mul_left_inj one_pos.ne']
    rw [single, Nat.mul_div_cancel _ one_pos, ← middle]
    omega

/-- The whole number above a whole number of ones is the number of ones. -/
theorem ceil_mul_one (whole : Nat) : (whole * one + one - 1) / one = whole := by
  refine eq_of_forall_lt_iff fun less => ?_
  rw [lt_ceil_iff, Nat.mul_lt_mul_right one_pos]

/-- The whole number above what a quotient of whole numbers is rounded to is the one above the
quotient exactly where it is told. -/
theorem nearest_ceil_eq_iff (divisor : 0 < den) :
    (nearest (num * one) den + one - 1) / one = num ⌈/⌉ den ↔ CeilIsTold num den := by
  have parts := Nat.div_add_mod num den
  rcases Nat.lt_or_ge (num / den) (2 ^ 53) with short | long
  · by_cases whole : num % den = 0
    · have held : IsExact (num / den * one) := isExact_mul_one short.le
      have exact : num * one = num / den * one * den := by
        calc num * one = (den * (num / den) + num % den) * one := by rw [parts]
          _ = num / den * one * den := by rw [whole]; ring
      rw [exact, nearest_of_isExact divisor held, ceil_mul_one,
        ceilDiv_of_mod_eq_zero divisor whole]
      refine iff_of_true rfl ⟨?_, fun rest => absurd whole rest⟩
      rwa [ceilDiv_of_mod_eq_zero divisor whole]
    · have next := ceilDiv_of_mod_ne_zero divisor whole
      have held : IsExact (num ⌈/⌉ den * one) := isExact_mul_one (by omega)
      have above : num * one ≤ num ⌈/⌉ den * one * den := by
        calc num * one ≤ den * (num ⌈/⌉ den) * one :=
              Nat.mul_le_mul_right one ((ceilDiv_le_iff_le_mul divisor).mp le_rfl)
          _ = num ⌈/⌉ den * one * den := by ring
      have most := nearest_le divisor held above
      have least : (nearest (num * one) den + one - 1) / one ≤ num ⌈/⌉ den := by
        rw [← Nat.not_lt, lt_ceil_iff, Nat.not_lt]
        exact most
      have told : CeilIsTold num den ↔ num / den * one < nearest (num * one) den := by
        rw [lt_nearest_iff_apart divisor short]
        exact ⟨fun told => told.apart whole short, fun apart => ⟨held, fun _ _ => apart⟩⟩
      rw [told, ← lt_ceil_iff]
      omega
  · have told : CeilIsTold num den ↔ IsExact (num ⌈/⌉ den * one) :=
      ⟨CeilIsTold.held, fun held => ⟨held, fun _ short => absurd short (Nat.not_lt.mpr long)⟩⟩
    have ones : one ∣ nearest (num * one) den :=
      ((Nat.dvd_mul_left one 2).trans (two_mul_one_dvd_stepOf divisor long)).trans
        (Nat.dvd_mul_left _ _)
    obtain ⟨count, counted⟩ := ones
    rw [told, ← nearest_eq_ceilDiv_iff divisor long, counted, Nat.mul_comm one, ceil_mul_one,
      Nat.mul_left_inj one_pos.ne']

/-- The first whole number that is not held exactly is rounded to the one below it. -/
theorem ceil_nearest_not_exact :
    (nearest ((2 ^ 53 + 1) * one) 1 + one - 1) / one = 2 ^ 53 := by
  decide +kernel

/-- The whole number nearest to a quotient is at most a half below it. -/
theorem two_mul_le_nearestWhole_mul (positive : 0 < den) :
    2 * num ≤ 2 * (nearestWhole num den * den) + den := by
  have less : ¬nearestWhole num den < nearestWhole num den := Nat.lt_irrefl _
  rw [lt_nearestWhole_iff positive, not_or] at less
  have cut : (2 * nearestWhole num den + 1) * den = 2 * (nearestWhole num den * den) + den := by
    ring
  omega

/-- A quotient is rounded down by at most one part in `2 ^ 53`, unless it is very small. -/
theorem mul_le_nearest_mul (divisor : 0 < den) (long : 2 ^ 52 ≤ num / den) :
    2 ^ 53 * num ≤ 2 ^ 53 * (nearest num den * den) + num := by
  have span := mul_stepOf_le divisor long
  rw [nearest_eq, Nat.mul_assoc, Nat.mul_comm (stepOf _)]
  have positive := Nat.mul_pos divisor (stepOf_pos (num / den))
  generalize den * stepOf (num / den) = step at span positive ⊢
  have half : 2 * num ≤ 2 * (nearestWhole num step * step) + step :=
    two_mul_le_nearestWhole_mul positive
  omega

/-- What the whole number above a rounded quotient leaves of the number that is divided is at most
one part in `2 ^ 53` of it, unless the divisor is so great that the quotient is rounded to
nothing. -/
theorem mul_le_ceil_nearest_mul (divisor : 0 < den) (small : den ≤ one) :
    2 ^ 53 * num ≤ 2 ^ 53 * ((nearest (num * one) den + one - 1) / one * den) + num := by
  obtain ⟨whole, same⟩ : ∃ whole, whole = (nearest (num * one) den + one - 1) / one := ⟨_, rfl⟩
  have above : nearest (num * one) den ≤ whole * one := by
    rw [← Nat.not_lt, ← lt_ceil_iff, same]
    exact Nat.lt_irrefl _
  rw [← same]
  rcases Nat.lt_or_ge (num * one / den) (2 ^ 52) with short | long
  · rcases Nat.eq_zero_or_pos num with rfl | positive
    · omega
    have unit : 1 ≤ nearest (num * one) den := by
      refine le_nearest divisor (isExact_two_pow 0) ?_
      rw [Nat.one_mul]
      exact small.trans (Nat.le_mul_of_pos_left one positive)
    have some : 0 < whole := by
      rw [same, lt_ceil_iff, Nat.zero_mul]
      exact unit
    have less : num * one < den * one := by
      calc num * one < 2 ^ 52 * den := (Nat.div_lt_iff_lt_mul divisor).mp short
        _ ≤ one * den := Nat.mul_le_mul_right den two_pow_le_one
        _ = den * one := Nat.mul_comm _ _
    have within : num ≤ whole * den :=
      (Nat.lt_of_mul_lt_mul_right less).le.trans (Nat.le_mul_of_pos_left den some)
    omega
  · have rounded := mul_le_nearest_mul divisor long
    have most : nearest (num * one) den * den ≤ whole * den * one := by
      calc nearest (num * one) den * den ≤ whole * one * den := Nat.mul_le_mul_right den above
        _ = whole * den * one := by ring
    refine Nat.le_of_mul_le_mul_right ?_ one_pos
    calc 2 ^ 53 * num * one = 2 ^ 53 * (num * one) := Nat.mul_assoc _ _ _
      _ ≤ 2 ^ 53 * (whole * den * one) + num * one := by omega
      _ = (2 ^ 53 * (whole * den) + num) * one := by ring

end

end QueryPipeline.Number.Binary64
