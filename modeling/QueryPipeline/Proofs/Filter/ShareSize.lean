import QueryPipeline.Proofs.Filter.Share
import QueryPipeline.Proofs.Number.Binary64
import QueryPipeline.Proofs.Pipeline.Range

/-!
# The size of a share

A share is told by two roundings, of the product of the total and the percentage and of its
hundredth. Neither rounding leads beyond a bound that the format holds exactly, so up to a hundred
percent of a total a share is never more than the total. The size is needed to cut a share out: from
the front any size is taken, but from the back no more documents can be kept than there are.
-/

namespace QueryPipeline

open Document Number Pipeline

/-- A share of a number of documents fits: there are none, or its size can be told and is, from the
back, no more than there are. -/
def ShareFits (total : Int) (percent : Binary64) : Prop :=
  total ≠ 0 → ∃ size, shareSize total percent = .ok size ∧
    (percent.isNegative = true → size ≤ total)

/-- The stages of a share that fits can be told. -/
theorem ShareFits.window {total : Int} {percent : Binary64} (fits : ShareFits total percent) :
    ∃ window, shareStages total percent = .ok window := by
  by_cases none : total = 0
  · exact ⟨[], if_pos none⟩
  · obtain ⟨size, sized, -⟩ := fits none
    exact ⟨windowStages total size percent.isNegative,
      by rw [shareStages, if_neg none, sized, Except.map]⟩

/-- The window of a number of documents is in range where no more are kept from the back than there
are. -/
theorem inRange_windowStages_iff {total size : Int} {fromBack : Bool} (counted : 0 ≤ total) :
    (∀ stage ∈ windowStages total size fromBack, stage.InRange) ↔
      (fromBack = true → size ≤ total) := by
  rw [windowStages]
  by_cases nothing : size ≤ 0
  · rw [if_pos nothing, List.forall_mem_singleton]
    exact iff_of_true (Stage.inRange_select _) fun _ => nothing.trans counted
  · have some : 1 ≤ size := by omega
    rw [if_neg nothing]
    cases fromBack with
    | false =>
      rw [if_neg Bool.false_ne_true, List.forall_mem_singleton]
      exact iff_of_true (Stage.inRange_limit_iff.mpr some) fun back => absurd back Bool.false_ne_true
    | true =>
      rw [if_pos rfl, List.forall_mem_cons, List.forall_mem_singleton, Stage.inRange_skip_iff,
        Stage.inRange_limit_iff]
      constructor
      · intro kept _
        omega
      · intro kept
        have most := kept rfl
        omega

/-- The window of a share is in range exactly where the share fits. -/
theorem inRange_shareStages_iff {total : Int} {percent : Binary64} {window : List Stage}
    (counted : 0 ≤ total) (shared : shareStages total percent = .ok window) :
    (∀ stage ∈ window, stage.InRange) ↔ ShareFits total percent := by
  obtain ⟨none, rfl⟩ | ⟨some, size, sized, rfl⟩ := shareStages_eq_ok shared
  · exact iff_of_true (List.forall_mem_nil _) fun some => absurd none some
  · rw [inRange_windowStages_iff counted]
    constructor
    · intro kept _
      exact ⟨size, sized, kept⟩
    · intro fits
      obtain ⟨other, told, kept⟩ := fits some
      rw [sized] at told
      exact Except.ok.inj told ▸ kept

/-- The units of the product of a total and a percentage, rounded. -/
def shareProduct (total units : Nat) : Nat :=
  Binary64.nearest (total * Binary64.one * units) Binary64.one

/-- The units of a share: the hundredth of the product, rounded again. -/
def shareUnits (total units : Nat) : Nat := Binary64.nearest (shareProduct total units) 100

/-- A product that is not beyond the greatest finite number is rounded to a finite number. -/
theorem shareProduct_lt_overflow {total units : Nat}
    (bounded : total * units ≤ Binary64.greatest) :
    shareProduct total units < Binary64.overflow := by
  have product : total * Binary64.one * units ≤ Binary64.greatest * Binary64.one := by
    calc total * Binary64.one * units = total * units * Binary64.one := by ring
      _ ≤ Binary64.greatest * Binary64.one := Nat.mul_le_mul_right _ bounded
  exact (Binary64.nearest_le Binary64.one_pos Binary64.isExact_greatest product).trans_lt
    Binary64.greatest_lt_overflow

/-- A product that reaches the least number beyond the finite ones is not rounded below it. -/
theorem overflow_le_shareProduct {total units : Nat}
    (above : Binary64.overflow ≤ total * units) :
    Binary64.overflow ≤ shareProduct total units := by
  refine Binary64.le_nearest Binary64.one_pos Binary64.isExact_overflow ?_
  calc Binary64.overflow * Binary64.one
      ≤ total * units * Binary64.one := Nat.mul_le_mul_right _ above
    _ = total * Binary64.one * units := by ring

/-- Up to a hundred percent, a share is no more than the total. -/
theorem shareUnits_le {total units : Nat} (small : 100 * total ≤ 2 ^ 53)
    (part : units ≤ 100 * Binary64.one) : shareUnits total units ≤ total * Binary64.one := by
  have product : total * Binary64.one * units ≤ 100 * total * Binary64.one * Binary64.one := by
    calc total * Binary64.one * units
        ≤ total * Binary64.one * (100 * Binary64.one) := Nat.mul_le_mul_left _ part
      _ = 100 * total * Binary64.one * Binary64.one := by ring
  have rounded := Binary64.nearest_le Binary64.one_pos (Binary64.isExact_mul_one small) product
  refine Binary64.nearest_le (by decide) (Binary64.isExact_mul_one (by omega)) ?_
  calc shareProduct total units ≤ 100 * total * Binary64.one := rounded
    _ = total * Binary64.one * 100 := by ring

/-- A share is no less than a number of documents of which the percentage makes a hundred times as
many. -/
theorem le_shareUnits {total units size : Nat} (small : 100 * size ≤ 2 ^ 53)
    (part : 100 * size * Binary64.one ≤ total * units) :
    size * Binary64.one ≤ shareUnits total units := by
  have product : 100 * size * Binary64.one * Binary64.one ≤ total * Binary64.one * units := by
    calc 100 * size * Binary64.one * Binary64.one
        ≤ total * units * Binary64.one := Nat.mul_le_mul_right _ part
      _ = total * Binary64.one * units := by ring
  have rounded := Binary64.le_nearest Binary64.one_pos (Binary64.isExact_mul_one small) product
  refine Binary64.le_nearest (by decide) (Binary64.isExact_mul_one (by omega)) ?_
  calc size * Binary64.one * 100 = 100 * size * Binary64.one := by ring
    _ ≤ shareProduct total units := rounded

/-- A share of no percent is nothing. -/
theorem shareUnits_zero (total : Nat) : shareUnits total 0 = 0 := by
  rw [shareUnits, shareProduct, Nat.mul_zero]
  decide +kernel

/-- The hundredth of a product that is finite is finite. -/
theorem hundredth_eq {total units : Nat} {negative : Bool}
    (finite : shareProduct total units < Binary64.overflow) :
    ((Binary64.finite false (total * Binary64.one)).mul (.finite negative units)).divNat 100 =
      .finite negative (shareUnits total units) := by
  have product : (Binary64.finite false (total * Binary64.one)).mul (.finite negative units) =
      .finite negative (shareProduct total units) := by
    rw [Binary64.mul, Bool.false_bne, Binary64.round]
    exact if_pos finite
  have below : shareProduct total units ≤ Binary64.greatest * 100 :=
    finite.le.trans (by decide +kernel)
  rw [product, Binary64.divNat, Binary64.round_of_le_greatest (by decide) below]
  rfl

/-- The hundredth of a product that is infinite is infinite. -/
theorem hundredth_of_overflow {total units : Nat} {negative : Bool}
    (above : Binary64.overflow ≤ shareProduct total units) :
    ((Binary64.finite false (total * Binary64.one)).mul (.finite negative units)).divNat 100 =
      .infinite negative := by
  have product : (Binary64.finite false (total * Binary64.one)).mul (.finite negative units) =
      .infinite negative := by
    rw [Binary64.mul, Bool.false_bne, Binary64.round]
    exact if_neg (Nat.not_lt.mpr above)
  rw [product, Binary64.divNat]

/-- The size of a share is told from the total as a floating point number. -/
theorem shareSize_of_whole {total : Int} {whole percent : Binary64}
    (held : toBinary64 total = .ok whole) :
    shareSize total percent =
      (if percent.isNonNegative then ((whole.mul percent).divNat 100).ceil
        else ((whole.mul percent.neg).divNat 100).floor).mapError .ofWhole := by
  rw [shareSize, held]
  rfl

/-- A whole number that is not too large is rounded to a finite number of its sign. -/
theorem toBinary64_eq_ok {n : Int} {whole : Binary64} (held : toBinary64 n = .ok whole) :
    whole = .finite (n < 0) (Binary64.nearest (n.natAbs * Binary64.one) 1) := by
  rw [toBinary64, Binary64.ofInt, Binary64.ofRatio, Binary64.round] at held
  split at held
  · split at held
    · exact (Except.ok.inj held).symm
    · cases held
  · cases held

/-- A share whose size can be told is taken of a total that is held as a floating point number. -/
theorem held_of_shareSize {total size : Int} {percent : Binary64}
    (sized : shareSize total percent = .ok size) : ∃ whole, toBinary64 total = .ok whole := by
  rw [shareSize] at sized
  obtain ⟨whole, held, -⟩ := bind_eq_ok sized
  exact ⟨whole, held⟩

/-- The size of a share is near the hundredth of a product with the percentage, or with its
opposite. -/
theorem natAbs_shareSize_le {total size : Int} {whole percent : Binary64}
    (held : toBinary64 total = .ok whole) (sized : shareSize total percent = .ok size) :
    ∃ factor sign units, (factor = percent ∨ factor = percent.neg) ∧
      (whole.mul factor).divNat 100 = .finite sign units ∧
        size.natAbs ≤ (units + Binary64.one - 1) / Binary64.one := by
  rw [shareSize_of_whole held] at sized
  split at sized
  · obtain ⟨sign, units, near⟩ := Binary64.natAbs_ceil_le (mapError_eq_ok sized)
    exact ⟨percent, sign, units, .inl rfl, near⟩
  · obtain ⟨sign, units, near⟩ := Binary64.natAbs_floor_le (mapError_eq_ok sized)
    exact ⟨percent.neg, sign, units, .inr rfl, near⟩

/-- A whole number that is near a finite number has few enough digits to be written. -/
theorem isWritable_of_near {units : Nat} {n : Int} (finite : units < Binary64.overflow)
    (near : n.natAbs ≤ (units + Binary64.one - 1) / Binary64.one) : isWritable n = true := by
  have most : units + Binary64.one - 1 ≤ Binary64.overflow + Binary64.one := by omega
  have short : (Binary64.overflow + Binary64.one) / Binary64.one < Nat.pow 10 maxDigits := by
    decide +kernel
  exact decide_eq_true ((near.trans (Nat.div_le_div_right most)).trans_lt short)

/-- The size of a share has few enough digits to be written. -/
theorem isWritable_shareSize {total size : Int} {percent : Binary64}
    (sized : shareSize total percent = .ok size) : isWritable size = true := by
  obtain ⟨whole, held⟩ := held_of_shareSize sized
  obtain ⟨factor, sign, units, -, divided, near⟩ := natAbs_shareSize_le held sized
  exact isWritable_of_near (Binary64.lt_overflow_of_divNat divided) near

/-- A share of less than nothing is no more than nothing. -/
theorem shareSize_le_zero {total size : Int} {percent : Binary64} (below : total < 0)
    (sized : shareSize total percent = .ok size) : size ≤ 0 := by
  obtain ⟨whole, held⟩ := held_of_shareSize sized
  have minus := toBinary64_eq_ok held
  rw [decide_eq_true below] at minus
  subst minus
  rw [shareSize_of_whole held] at sized
  cases up : percent.isNonNegative with
  | true =>
    rw [up, if_pos rfl] at sized
    exact Binary64.ceil_le_zero (Binary64.isNotPositive_divNat (Binary64.isNotPositive_mul up) 100)
      (mapError_eq_ok sized)
  | false =>
    rw [up, if_neg Bool.false_ne_true] at sized
    obtain rfl | opposite := Binary64.isNonNegative_neg up
    · cases sized
    · exact Binary64.floor_le_zero
        (Binary64.isNotPositive_divNat (Binary64.isNotPositive_mul opposite) 100)
        (mapError_eq_ok sized)

/-- The window of a share that fits can be written where the total can. -/
theorem canBeWritten_shareStages {total : Int} {percent : Binary64} {window : List Stage}
    (counted : 0 ≤ total) (written : isWritable total = true) (fits : ShareFits total percent)
    (shared : shareStages total percent = .ok window) : canBeWritten window = true := by
  have inRange := (inRange_shareStages_iff counted shared).mpr fits
  rw [canBeWritten_iff]
  intro stage mem
  have range := inRange stage mem
  obtain ⟨-, rfl⟩ | ⟨some, size, sized, rfl⟩ := shareStages_eq_ok shared
  · cases mem
  · obtain rfl | ⟨rfl, positive⟩ | rfl := mem_windowStages mem
    · rfl
    · have least : 0 ≤ total - size := Stage.inRange_skip_iff.mp range
      have most : (total - size).natAbs ≤ total.natAbs := by omega
      rw [canBeWritten_skip]
      exact decide_eq_true (most.trans_lt (of_decide_eq_true written))
    · rw [canBeWritten_limit]
      exact isWritable_shareSize sized

/-- Totals up to `2 ^ 53` are floating point numbers. -/
theorem toBinary64_natCast {total : Nat} (small : total ≤ 2 ^ 53) :
    toBinary64 total = .ok (.finite false (total * Binary64.one)) := by
  rw [toBinary64, Binary64.ofInt_natCast small]
  rfl

/-- The size of a share of up to `2 ^ 53` documents, where the product is finite: the units are
rounded down from the back and up from the front. -/
theorem shareSize_finite {total units : Nat} {negative : Bool} (small : total ≤ 2 ^ 53)
    (finite : shareProduct total units < Binary64.overflow) :
    shareSize total (.finite negative units) =
      .ok (if (Binary64.finite negative units).isNegative
        then (shareUnits total units / Binary64.one : Nat)
        else ((shareUnits total units + Binary64.one - 1) / Binary64.one : Nat)) := by
  rw [shareSize_of_whole (toBinary64_natCast small), Binary64.isNonNegative_finite]
  cases back : (Binary64.finite negative units).isNegative with
  | false =>
    rw [Bool.not_false, if_pos rfl, if_neg Bool.false_ne_true, hundredth_eq finite]
    obtain rfl | zero : negative = false ∨ units = 0 := by
      simpa [Binary64.isNegative, Bool.and_eq_false_iff, -Bool.and_eq_false_imp] using back
    · rw [Binary64.ceil_finite]
      rfl
    · rw [zero, shareUnits_zero]
      cases negative <;> decide +kernel
  | true =>
    obtain ⟨rfl, -⟩ := Bool.and_eq_true_iff.mp back
    rw [Bool.not_true, if_neg Bool.false_ne_true, if_pos rfl, Binary64.neg, hundredth_eq finite]
    rfl

/-- The size of a share of up to `2 ^ 53` documents cannot be told where the product is infinite. -/
theorem shareSize_of_overflow {total units : Nat} {negative : Bool} (small : total ≤ 2 ^ 53)
    (above : Binary64.overflow ≤ shareProduct total units) :
    shareSize total (.finite negative units) = .error .infinityToInteger := by
  rw [shareSize_of_whole (toBinary64_natCast small), Binary64.neg, hundredth_of_overflow above,
    hundredth_of_overflow above]
  split <;> rfl

/-- Shares of up to `2 ^ 53 / 100` documents fit from minus a hundred percent on, unless the product
of the total and the percentage is beyond the finite numbers. -/
theorem shareFits_of_le {total units : Nat} {negative : Bool} (small : 100 * total ≤ 2 ^ 53)
    (bounded : total * units ≤ Binary64.greatest)
    (part : negative = true → units ≤ 100 * Binary64.one) :
    ShareFits total (.finite negative units) := by
  intro some
  refine ⟨_, shareSize_finite (by omega) (shareProduct_lt_overflow bounded), fun back => ?_⟩
  rw [if_pos back]
  have sign : negative = true := (Bool.and_eq_true_iff.mp back).1
  have most := Nat.div_le_div_right (c := Binary64.one) (shareUnits_le small (part sign))
  rw [Nat.mul_div_cancel _ Binary64.one_pos] at most
  exact Int.ofNat_le.mpr most

/-- A share from the back that comes to more than there is does not fit. -/
theorem not_shareFits_of_gt {total units : Nat} (some : 0 < total)
    (small : 100 * (total + 1) ≤ 2 ^ 53)
    (above : 100 * (total + 1) * Binary64.one ≤ total * units) :
    ¬ShareFits total (.finite true units) := by
  intro fits
  obtain ⟨size, sized, kept⟩ := fits (by omega)
  have back : (Binary64.finite true units).isNegative = true := by
    have product : 0 < total * units :=
      (Nat.mul_pos (by omega) Binary64.one_pos).trans_le above
    have positive : units ≠ 0 := (Nat.pos_of_mul_pos_left product).ne'
    simpa [Binary64.isNegative] using positive
  rcases Nat.lt_or_ge (shareProduct total units) Binary64.overflow with finite | infinite
  · have least := Nat.div_le_div_right (c := Binary64.one) (le_shareUnits small above)
    rw [Nat.mul_div_cancel _ Binary64.one_pos] at least
    rw [shareSize_finite (by omega) finite, if_pos back] at sized
    have most := Except.ok.inj sized ▸ kept back
    omega
  · rw [shareSize_of_overflow (by omega) infinite] at sized
    cases sized

/-- A share whose product is beyond the finite numbers cannot be told. -/
theorem shareStages_of_overflow {total units : Nat} {negative : Bool} (some : 0 < total)
    (small : total ≤ 2 ^ 53) (above : Binary64.overflow ≤ total * units) :
    shareStages total (.finite negative units) = .error .infinityToInteger := by
  have nonzero : (total : Int) ≠ 0 := by omega
  rw [shareStages, if_neg nonzero, shareSize_of_overflow small (overflow_le_shareProduct above)]
  rfl

end QueryPipeline
