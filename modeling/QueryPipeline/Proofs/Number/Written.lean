import Mathlib.Algebra.Group.Nat.Defs
import Mathlib.Data.List.Induction
import QueryPipeline.Proofs.Number.Whole

/-!
# Written numbers read back

The decimal text of a whole number is a sign and digits of ASCII, without a blank. It is read as the
number that it was written for, unless it has more digits than are read. Conversely, every number
that is read can be written.
-/

namespace QueryPipeline.Number

open Text

/-- A digit of ASCII is a decimal digit of its value. -/
theorem digitValue?_of_isDigit {c : Char} (digit : c.isDigit = true) :
    digitValue? c = some (c.toNat - '0'.toNat) := by
  rw [Char.isDigit, Bool.and_eq_true, decide_eq_true_eq, decide_eq_true_eq] at digit
  have low : 0x30 ≤ c.toNat := digit.1
  have high : c.toNat ≤ 0x30 + 9 := digit.2
  have inRun : (decide (0x30 ≤ c.toNat) && decide (c.toNat ≤ 0x30 + 9)) = true := by
    simp [low, high]
  have found : digitZeros.find? (fun first => first ≤ c.toNat && c.toNat ≤ first + 9) =
      some 0x30 :=
    List.find?_cons_of_pos inRun
  rw [digitValue?, found]
  rfl

/-- The values of digits of ASCII denote the number that the digits are written for. -/
theorem ofDigits_filterMap {digits : List Char} (ascii : ∀ c ∈ digits, c.isDigit = true) :
    ofDigits (digits.filterMap digitValue?) = Nat.ofDigitChars 10 digits 0 := by
  have values : digits.filterMap digitValue? = digits.map fun c => c.toNat - '0'.toNat := by
    induction digits with
    | nil => rfl
    | cons c rest ih =>
      rw [List.forall_mem_cons] at ascii
      rw [List.filterMap_cons_some (digitValue?_of_isDigit ascii.1), ih ascii.2, List.map_cons]
  rw [values, ofDigits, List.foldl_map, Nat.ofDigitChars_eq_foldl]

/-- The parts of the decimal text of a whole number. -/
def written (n : Int) : WholeText where
  front := []
  negative := n < 0
  digits := Nat.toDigits 10 n.natAbs
  back := []
  front_blank := List.forall_mem_nil _
  digits_nonempty := Nat.toDigits_ne_nil
  digits_decimal c mem := by
    have digit := Nat.isDigit_of_mem_toDigits (by decide) (by decide) mem
    rw [isDecimalDigit, digitValue?_of_isDigit digit]
    rfl
  back_blank := List.forall_mem_nil _

/-- The parts of the decimal text are put together to it. -/
theorem text_written (n : Int) : (written n).text = decimal n := by
  rw [WholeText.text, WholeText.sign, written, decimal]
  by_cases negative : n < 0
  · simp [negative]
  · simp [negative]

/-- There is no blank in the decimal text of a whole number. -/
theorem not_isBlank_of_mem_decimal {n : Int} : ∀ c ∈ decimal n, isBlank c = false := by
  have digits : ∀ c ∈ Nat.toDigits 10 n.natAbs, isBlank c = false := fun c mem =>
    not_isBlank_of_isDecimalDigit ((written n).digits_decimal c mem)
  rw [decimal]
  split
  · exact List.forall_mem_cons.mpr ⟨by decide, digits⟩
  · exact digits

/-- The decimal text of a whole number passes for one. -/
theorem isWhole_trim_decimal (n : Int) : isWhole (trim (decimal n)) = true := by
  have nonempty : Nat.toDigits 10 n.natAbs ≠ [] := Nat.toDigits_ne_nil
  have values : ∀ c ∈ Nat.toDigits 10 n.natAbs, isDecimalDigit c = true :=
    (written n).digits_decimal
  have unsigned : (Nat.toDigits 10 n.natAbs).head? ≠ some '-' := fun head =>
    absurd (values '-' (List.mem_of_head? head)) (by decide)
  rw [trim_of_plain not_isBlank_of_mem_decimal, decimal, isWhole]
  by_cases negative : n < 0
  · rw [if_pos negative]
    simpa [nonempty] using values
  · rw [if_neg negative, if_neg unsigned]
    simpa [nonempty] using values

/-- A number below a power of ten has at most as many digits. -/
theorem length_toDigits_le {n count : Nat} (positive : 0 < count) (small : n < Nat.pow 10 count) :
    (Nat.toDigits 10 n).length ≤ count :=
  (Nat.length_toDigits_le_iff (by decide) positive).mpr small

/-- A number that can be written is read from its decimal text. -/
theorem readInteger_decimal {n : Int} (writable : isWritable n = true) :
    readInteger (decimal n) = .ok n := by
  have few : (written n).digits.length ≤ maxDigits :=
    length_toDigits_le (by decide) (of_decide_eq_true writable)
  have plain : (written n).back.all isNumeralBlank = true := rfl
  have value : ofDigits ((Nat.toDigits 10 n.natAbs).filterMap digitValue?) = n.natAbs := by
    rw [ofDigits_filterMap fun c => Nat.isDigit_of_mem_toDigits (by decide) (by decide),
      Nat.ofDigitChars_ten_toDigits]
  have sign : signed (decide (n < 0)) n.natAbs = n := by
    rw [signed]
    split
    · next negative =>
      have below := of_decide_eq_true negative
      omega
    · next other =>
      have above : ¬n < 0 := fun negative => other (decide_eq_true negative)
      omega
  have read := (written n).readInteger_text (List.forall_mem_nil _)
  rw [text_written] at read
  rw [read, if_neg (Nat.not_lt.mpr few), if_pos plain]
  exact congrArg Except.ok ((congrArg (signed _) value).trans sign)

/-- Digits below a base denote a number below the power of the base that has as many. -/
theorem foldl_digits_lt {base : Nat} {values : List Nat} (small : ∀ value ∈ values, value < base) :
    values.foldl (fun n digit => base * n + digit) 0 < base ^ values.length := by
  induction values using List.reverseRecOn with
  | nil => exact Nat.one_pos
  | append_singleton front value ih =>
    have last := small value (by simp)
    have rest := ih fun value mem => small value (List.mem_append_left _ mem)
    have most := Nat.mul_le_mul_left base (Nat.succ_le_of_lt rest)
    rw [List.foldl_append, List.foldl_cons, List.foldl_nil, List.length_append,
      List.length_singleton, Nat.pow_succ, Nat.mul_comm (base ^ _)]
    rw [Nat.mul_succ] at most
    omega

/-- A number with no more digits than another that can be written can be written. -/
theorem isWritable_of_natAbs_le {m n : Int} (le : m.natAbs ≤ n.natAbs)
    (writable : isWritable n = true) : isWritable m = true :=
  decide_eq_true (le.trans_lt (of_decide_eq_true writable))

/-- A text with no more digits than a number of them denotes a number below that power of ten. -/
theorem ofDigits_filterMap_lt {text : List Char} {count : Nat}
    (few : (text.filterMap digitValue?).length ≤ count) :
    ofDigits (text.filterMap digitValue?) < Nat.pow 10 count := by
  have small : ∀ value ∈ text.filterMap digitValue?, value < 10 := by
    intro value mem
    obtain ⟨c, -, valued⟩ := List.mem_filterMap.mp mem
    exact digitValue?_lt_ten valued
  exact (foldl_digits_lt small).trans_le (Nat.pow_le_pow_right (by decide) few)

/-- A number of three digits can be written. -/
theorem isWritable_of_natAbs_lt {n : Int} (short : n.natAbs < 1000) : isWritable n = true := by
  have most : ∀ digits, 3 ≤ digits → 1000 ≤ Nat.pow 10 digits := fun digits few =>
    Nat.pow_le_pow_right (by decide : 0 < 10) few
  exact decide_eq_true (short.trans_le (most maxDigits (by decide)))

/-- The sign of a number leaves its magnitude as it is. -/
theorem natAbs_signed (negative : Bool) (magnitude : Nat) :
    (signed negative magnitude).natAbs = magnitude := by
  cases negative with
  | false => rfl
  | true => exact (Int.natAbs_neg _).trans (Int.natAbs_natCast _)

/-- A number that is read can be written. -/
theorem isWritable_of_readInteger {text : List Char} {n : Int}
    (read : readInteger text = .ok n) : isWritable n = true := by
  rw [readInteger] at read
  dsimp only at read
  split at read
  · cases read
  · split at read
    · cases read
    · next few =>
      split at read
      · cases read
        rw [isWritable, natAbs_signed]
        exact decide_eq_true (ofDigits_filterMap_lt (Nat.le_of_not_lt few))
      · cases read

end QueryPipeline.Number
