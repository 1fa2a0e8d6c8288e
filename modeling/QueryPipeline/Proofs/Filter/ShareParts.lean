import QueryPipeline.Proofs.Filter.ShareSize
import QueryPipeline.Proofs.Number.Order
import QueryPipeline.Proofs.Pipeline.Ends

/-!
# Shares as parts of a list

A share of up to a hundred percent is a number of the rows that are counted, at the front or at the
back of them. It grows with the percentage, and for whole percentages it is what exact arithmetic
makes of it, so a share from the front and the rest from the back part the rows. Totals are bounded
by `2 ^ 53 / 100`, up to which a hundredfold total is a floating point number.
-/

namespace QueryPipeline

open Number Pipeline

/-- A share is a number of rows at the front of those that are counted. -/
def IsFrontShare (total : Nat) (percent : Binary64) (count : Nat) : Prop :=
  ∃ stages, shareStages total percent = .ok stages ∧ KeepsFirst stages total count

/-- A share is a number of rows at the back of those that are counted. Unless there are none, the
other rows are skipped. -/
def IsBackShare (total : Nat) (percent : Binary64) (count : Nat) : Prop :=
  ∃ stages, shareStages total percent = .ok stages ∧ KeepsLast stages total count ∧
    (0 < count → ∃ skipped kept : Int, stages = [.skip skipped, .limit kept] ∧
      skipped + kept = total ∧ 0 ≤ skipped)

section

variable {total size : Nat}

/-- A window at the front keeps the first rows. -/
theorem keepsFirst_windowStages (within : size ≤ total) :
    KeepsFirst (windowStages total size false) total size := by
  rcases Nat.eq_zero_or_pos size with rfl | some
  · exact keepsFirst_never total
  · have nonzero : ¬(size : Int) ≤ 0 := by omega
    rw [windowStages, if_neg nonzero, if_neg Bool.false_ne_true]
    exact keepsFirst_limit within

/-- A window at the back that keeps some rows skips the others. -/
theorem windowStages_true (some : 0 < size) (within : size ≤ total) :
    windowStages total size true = [.skip (total - size : Nat), .limit size] := by
  have nonzero : ¬(size : Int) ≤ 0 := by omega
  rw [windowStages, if_neg nonzero, if_pos rfl, Int.ofNat_sub within]

/-- A window at the back keeps the last rows. -/
theorem keepsLast_windowStages (within : size ≤ total) :
    KeepsLast (windowStages total size true) total size := by
  rcases Nat.eq_zero_or_pos size with rfl | some
  · exact keepsLast_never total
  · rw [windowStages_true some within]
    exact keepsLast_skip_limit within

end

/-- The rows that a share keeps from the front: the units are rounded up. -/
def frontCount (total units : Nat) : Nat :=
  (shareUnits total units + Binary64.one - 1) / Binary64.one

/-- The rows that a share keeps from the back: the units are rounded down. -/
def backCount (total units : Nat) : Nat := shareUnits total units / Binary64.one

section

variable {total units : Nat} (some : 1 ≤ total) (small : 100 * total ≤ 2 ^ 53)

/-- A greater percentage makes no fewer units of a share. -/
theorem shareUnits_mono {less more : Nat} (le : less ≤ more) :
    shareUnits total less ≤ shareUnits total more :=
  Binary64.nearest_mono (by decide)
    (Binary64.nearest_mono Binary64.one_pos (Nat.mul_le_mul_left _ le))

include small

/-- The product with a whole percentage is a floating point number. -/
theorem mul_percent_le {percent : Nat} (part : percent ≤ 100) : total * percent ≤ 2 ^ 53 := by
  have most : total * percent ≤ total * 100 := Nat.mul_le_mul_left total part
  omega

/-- The units of a share of a whole percentage are rounded once. -/
theorem shareUnits_whole {percent : Nat} (part : percent ≤ 100) :
    shareUnits total (percent * Binary64.one) =
      Binary64.nearest (total * percent * Binary64.one) 100 := by
  have product : total * Binary64.one * (percent * Binary64.one) =
      total * percent * Binary64.one * Binary64.one := by ring
  rw [shareUnits, shareProduct, product,
    Binary64.nearest_of_isExact Binary64.one_pos
      (Binary64.isExact_mul_one (mul_percent_le small part))]

/-- From the front, a whole percentage makes the share of exact arithmetic, rounded up. -/
theorem frontCount_whole {percent : Nat} (part : percent ≤ 100) :
    frontCount total (percent * Binary64.one) = total * percent ⌈/⌉ 100 := by
  rw [frontCount, shareUnits_whole small part]
  exact Binary64.nearest_ceil_one (mul_percent_le small part) (by decide) (by decide +kernel)

/-- From the back, a whole percentage makes the share of exact arithmetic, rounded down. -/
theorem backCount_whole {percent : Nat} (part : percent ≤ 100) :
    backCount total (percent * Binary64.one) = total * percent / 100 := by
  rw [backCount, shareUnits_whole small part]
  exact Binary64.nearest_div_one (mul_percent_le small part) (by decide)

variable (part : units ≤ 100 * Binary64.one)
include part

/-- A share from the front keeps no more rows than there are. -/
theorem frontCount_le : frontCount total units ≤ total := by
  rw [← Nat.not_lt, frontCount, Binary64.lt_ceil_iff, Nat.not_lt]
  exact shareUnits_le small part

/-- A share from the back keeps no more rows than there are. -/
theorem backCount_le : backCount total units ≤ total := by
  have most := Nat.div_le_div_right (c := Binary64.one) (shareUnits_le small part)
  rwa [Nat.mul_div_cancel _ Binary64.one_pos] at most

include some

/-- The stages of a share are those of the window of its size. -/
theorem shareStages_finite (negative : Bool) :
    shareStages total (.finite negative units) =
      .ok (windowStages total
        (if (Binary64.finite negative units).isNegative then backCount total units
          else frontCount total units : Nat)
        (Binary64.finite negative units).isNegative) := by
  have nonzero : (total : Int) ≠ 0 := by omega
  have product : total * units ≤ Binary64.greatest := by
    have most : 100 * total * Binary64.one ≤ 2 ^ 53 * Binary64.one := Nat.mul_le_mul_right _ small
    have held : 2 ^ 53 * Binary64.one ≤ Binary64.greatest := by decide +kernel
    calc total * units ≤ total * (100 * Binary64.one) := Nat.mul_le_mul_left total part
      _ = 100 * total * Binary64.one := by ring
      _ ≤ Binary64.greatest := most.trans held
  rw [shareStages, if_neg nonzero,
    shareSize_finite (by omega) (shareProduct_lt_overflow product), Except.map]
  split <;> rfl

/-- A share that is not below zero is counted from the front. -/
theorem isFrontShare_finite (negative : Bool) (up : negative = true → units = 0) :
    IsFrontShare total (.finite negative units) (frontCount total units) := by
  have sign : (Binary64.finite negative units).isNegative = false := by
    cases negative with
    | false => rfl
    | true => simp [Binary64.isNegative, up rfl]
  refine ⟨_, shareStages_finite some small part negative, ?_⟩
  rw [sign, if_neg Bool.false_ne_true]
  exact keepsFirst_windowStages (frontCount_le small part)

/-- A share that is not above zero is counted from the back. -/
theorem isBackShare_finite (negative : Bool) (down : negative = false → units = 0) :
    IsBackShare total (.finite negative units) (backCount total units) := by
  have within := backCount_le small part
  refine ⟨_, shareStages_finite some small part negative, ?_⟩
  rcases Nat.eq_zero_or_pos units with rfl | positive
  · -- Nothing is asked for, and nothing is kept at either end.
    have front : frontCount total 0 = 0 := by rw [frontCount, shareUnits_zero]; decide +kernel
    have back : backCount total 0 = 0 := by rw [backCount, shareUnits_zero]; decide +kernel
    have sign : (Binary64.finite negative 0).isNegative = false := by cases negative <;> rfl
    rw [sign, if_neg Bool.false_ne_true, front, back]
    exact ⟨keepsLast_never total, fun kept => absurd kept (Nat.lt_irrefl 0)⟩
  · obtain rfl : negative = true := by
      cases negative with
      | true => rfl
      | false => exact absurd (down rfl) positive.ne'
    have sign : (Binary64.finite true units).isNegative = true := by
      simp [Binary64.isNegative, positive.ne']
    rw [sign, if_pos rfl]
    refine ⟨keepsLast_windowStages within, fun kept => ?_⟩
    exact ⟨_, _, windowStages_true kept within, by omega, Int.natCast_nonneg _⟩

end

/-- Shares of two whole percentages that differ by a hundred part the rows. For up to `2 ^ 53 / 100`
rows and from no percent to a hundred, the share from the front keeps the first rows, as many as
exact arithmetic makes of it when it is rounded up, and the share from the back keeps the others,
which are as many as exact arithmetic makes of that when it is rounded down. So each row is kept by
exactly one of the two. -/
theorem whole_shares_part_rows {total percent : Nat} (some : 1 ≤ total)
    (small : 100 * total ≤ 2 ^ 53) (part : percent ≤ 100) :
    ∃ front back, shareStages total (.ofInt percent) = .ok front ∧
      shareStages total (.ofInt (percent - 100)) = .ok back ∧
      KeepsFirst front total (total * percent ⌈/⌉ 100) ∧
      KeepsLast back total (total * (100 - percent) / 100) ∧
      total - total * percent ⌈/⌉ 100 = total * (100 - percent) / 100 ∧
      ∀ (Row : Type) (reading : CutReading Row) (rows : List Row), rows.length = total →
        reading.run front rows ++ reading.run back rows = rows := by
  have rest : 100 - percent ≤ 100 := Nat.sub_le 100 percent
  have size : ((percent : Int) - 100).natAbs = 100 - percent := by omega
  have empty : decide ((percent : Int) - 100 < 0) = false →
      (100 - percent) * Binary64.one = 0 := by
    intro whole
    have full := of_decide_eq_false whole
    have none : 100 - percent = 0 := by omega
    rw [none, Nat.zero_mul]
  have forth := isFrontShare_finite some small (Nat.mul_le_mul_right Binary64.one part) false
    (fun minus => absurd minus Bool.false_ne_true)
  have back := isBackShare_finite some small (Nat.mul_le_mul_right Binary64.one rest) _ empty
  rw [frontCount_whole small part, ← Binary64.ofInt_natCast (by omega)] at forth
  rw [backCount_whole small rest, ← size, ← Binary64.ofInt_of_natAbs_le (by omega), size] at back
  have others : total - total * percent ⌈/⌉ 100 = total * (100 - percent) / 100 := by
    have split : total * (100 - percent) = total * 100 - total * percent :=
      Nat.mul_sub total 100 percent
    rw [Nat.ceilDiv_eq_add_pred_div, split]
    omega
  obtain ⟨front, made, first⟩ := forth
  obtain ⟨last, cut, keeps, -⟩ := back
  refine ⟨front, last, made, cut, first, keeps, others, fun Row reading rows all => ?_⟩
  exact first.append_eq (others ▸ keeps) reading all

/-- Of the most rows whose hundredfold is a floating point number, 89 percent from the front and
eleven from the back leave out none and keep none twice. The exact shares end in a hundredth and in
99 hundredths. -/
theorem greatest_list_parted :
    1 ≤ 90071992547409 ∧ 100 * 90071992547409 ≤ 2 ^ 53 ∧ 89 ≤ 100 ∧
      ∃ front back, shareStages 90071992547409 (.ofInt 89) = .ok front ∧
        shareStages 90071992547409 (.ofInt (-11)) = .ok back ∧
        KeepsFirst front 90071992547409 80164073367195 ∧
        KeepsLast back 90071992547409 9907919180214 := by
  obtain ⟨front, back, forth, rear, first, last, -, -⟩ :=
    @whole_shares_part_rows 90071992547409 89 (by decide) (by decide) (by decide)
  have up : 90071992547409 * 89 ⌈/⌉ 100 = 80164073367195 := by
    rw [Nat.ceilDiv_eq_add_pred_div]
  rw [up] at first
  exact ⟨by decide, by decide, by decide, front, back, forth, rear, first, last⟩

/-- Shares grow with the percentage and stay within the list. For up to `2 ^ 53 / 100` rows and any
two floating point numbers from zero to a hundred in their order, the share of the smaller keeps no
more of the first rows than that of the greater. Of the opposite numbers the same holds of the last
rows, and unless there are none, the rows that are skipped and those that are kept are all. -/
theorem shares_grow_with_percent {total : Nat} (some : 1 ≤ total) (small : 100 * total ≤ 2 ^ 53)
    {less more : Binary64} (least : .ofInt 0 ≤ less) (le : less ≤ more)
    (most : more ≤ .ofInt 100) :
    (∃ few many, few ≤ many ∧ IsFrontShare total less few ∧ IsFrontShare total more many) ∧
      ∃ few many, few ≤ many ∧ IsBackShare total less.neg few ∧ IsBackShare total more.neg many := by
  obtain ⟨s, m, rfl, up, part⟩ := Binary64.exists_finite_of_le (n := 100) (by decide) least
    (Binary64.le_trans le most)
  obtain ⟨t, n, rfl, above, whole⟩ := Binary64.exists_finite_of_le (n := 100) (by decide)
    (Binary64.le_trans least le) most
  have units : shareUnits total m ≤ shareUnits total n :=
    shareUnits_mono (Binary64.units_le_of_le up le above)
  refine ⟨⟨frontCount total m, frontCount total n, ?_, ?_, ?_⟩,
    ⟨backCount total m, backCount total n, ?_, ?_, ?_⟩⟩
  · exact Nat.div_le_div_right (by omega)
  · exact isFrontShare_finite some small part s up
  · exact isFrontShare_finite some small whole t above
  · exact Nat.div_le_div_right units
  · exact isBackShare_finite some small part s.not (by simpa using up)
  · exact isBackShare_finite some small whole t.not (by simpa using above)

/-- An eighth of a hundred percent. -/
def eighth : Binary64 := .finite false (25 * 2 ^ 1073)

/-- Zero with a sign is a percentage below an eighth, and no more of 45 rows are kept for it. -/
theorem eighth_keeps_more :
    1 ≤ 45 ∧ 100 * 45 ≤ 2 ^ 53 ∧ Binary64.ofInt 0 ≤ .finite true 0 ∧
      Binary64.finite true 0 ≤ eighth ∧ eighth ≤ .ofInt 100 ∧
      (∃ few many, few ≤ many ∧ IsFrontShare 45 (.finite true 0) few ∧ IsFrontShare 45 eighth many) ∧
      ∃ few many, few ≤ many ∧ IsBackShare 45 (.finite false 0) few ∧
        IsBackShare 45 eighth.neg many := by
  have least : Binary64.ofInt 0 ≤ .finite true 0 := by
    rw [Binary64.ofInt_zero]
    exact (Binary64.le_iff rfl rfl).mpr (by decide)
  have le : Binary64.finite true 0 ≤ eighth := (Binary64.le_iff rfl rfl).mpr (by decide +kernel)
  have hundred : Binary64.ofInt 100 = .finite false (100 * Binary64.one) :=
    Binary64.ofInt_natCast (n := 100) (by decide)
  have most : eighth ≤ .ofInt 100 := by
    rw [hundred]
    exact (Binary64.le_iff rfl rfl).mpr (by decide +kernel)
  exact ⟨by decide, by decide, least, le, most,
    shares_grow_with_percent (by decide) (by decide) least le most⟩

end QueryPipeline
