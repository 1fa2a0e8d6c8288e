import QueryPipeline.Document.Value
import QueryPipeline.Proofs.Document.Identifier
import QueryPipeline.Proofs.Number.Written
import Mathlib.Algebra.Group.Int.Defs
import Mathlib.Algebra.Group.Nat.Defs

/-!
# Whole numbers that can be encoded

A document is encoded with whole numbers of 64 bits. An identifier that is looked up brings in the
number that its text denotes, however large that is. The 24 digits of an object identifier denote a
number too where none of them is a letter, and most of these numbers are too large.
-/

namespace QueryPipeline.Document

open Number Text

/-- A whole number that can be encoded: it has 64 bits with its sign. -/
def IsEncodable (n : Int) : Prop := -2 ^ 63 ≤ n ∧ n < 2 ^ 63

instance : DecidablePred IsEncodable := fun n =>
  inferInstanceAs (Decidable (-2 ^ 63 ≤ n ∧ n < 2 ^ 63))

mutual

/-- The whole numbers in a value. -/
def Value.integers : Value → List Int
  | .int n => [n]
  | .array items => itemIntegers items
  | .object members => memberIntegers members
  | _ => []

/-- The whole numbers in the items of an array. -/
def itemIntegers : List Value → List Int
  | [] => []
  | value :: rest => value.integers ++ itemIntegers rest

/-- The whole numbers in the members of an object. -/
def memberIntegers : List (String × Value) → List Int
  | [] => []
  | (_, value) :: rest => value.integers ++ memberIntegers rest

end

/-- There are no whole numbers in keys. -/
theorem itemIntegers_keys (keys : List Key) : itemIntegers (keys.map Key.toValue) = [] := by
  induction keys with
  | nil => rfl
  | cons key rest ih =>
    rw [List.map_cons, itemIntegers, ih]
    cases key <;> rfl

/-- An identifier whose number, if it has a whole one, can be encoded. -/
def Identifier.IsEncodable (identifier : Identifier) : Prop :=
  ∀ n, identifier.number = some (.int n) → Document.IsEncodable n

/-- The number of an identifier is the one that its text denotes. -/
theorem Identifier.number_of_ofText {text : String} {identifier : Identifier}
    (read : Identifier.ofText text = .ok identifier) : readNumeral text = .ok identifier.number := by
  obtain ⟨number?, number, rest⟩ := bind_eq_ok read
  obtain ⟨key, -, made⟩ := bind_eq_ok rest
  cases made
  exact number

/-- An identifier can be encoded exactly where the whole number that its text denotes, if it does,
can be. -/
theorem Identifier.isEncodable_iff {text : String} {identifier : Identifier}
    (read : Identifier.ofText text = .ok identifier) :
    identifier.IsEncodable ↔ ∀ n, isWhole (trim text.toList) = true →
      readInteger text.toList = .ok n → Document.IsEncodable n := by
  refine forall_congr' fun n => ?_
  rw [← and_imp, ← readNumeral_eq_int_iff, Identifier.number_of_ofText read, Except.ok.injEq]

/-- A hexadecimal digit is no blank. -/
theorem not_isBlank_of_isHexDigit {c : Char} (hex : isHexDigit c = true) : isBlank c = false := by
  obtain ⟨value, read⟩ := Option.isSome_iff_exists.mp hex
  have code : 0x30 ≤ c.toNat ∧ c.toNat ≤ 0x66 := by
    rw [hexValue?] at read
    grind
  simp only [isBlank, isNumeralBlank, Bool.or_eq_false_iff, Bool.and_eq_false_iff,
    decide_eq_false_iff_not, beq_eq_false_iff_ne]
  omega

/-- An identifier that is given as a number can be encoded exactly where the number can be. -/
theorem Identifier.isEncodable_of_int {n : Int} {identifier : Identifier}
    (read : Identifier.ofGiven (.int n) = .ok identifier) :
    identifier.IsEncodable ↔ Document.IsEncodable n := by
  obtain ⟨text, wrote, own⟩ := bind_eq_ok read
  rw [GivenId.toText] at wrote
  split at wrote
  · next writable =>
    cases wrote
    have denoted : readInteger (decimalString n).toList = .ok n := by
      rw [decimalString, String.toList_ofList, readInteger_decimal writable]
    have whole : isWhole (trim (decimalString n).toList) = true := by
      rw [decimalString, String.toList_ofList, isWhole_trim_decimal]
    rw [Identifier.isEncodable_iff own]
    constructor
    · exact fun encodable => encodable n whole denoted
    · intro encodable other _ value
      cases denoted.symm.trans value
      exact encodable
  · cases wrote

section

variable {digits : List Char} (hex : ∀ c ∈ digits, isHexDigit c = true)

include hex

/-- Hexadecimal digits pass for a whole number where none of them is a letter. -/
theorem isWhole_trim_of_hex (nonempty : digits ≠ []) :
    isWhole (trim digits) = digits.all isDecimalDigit := by
  have unsigned : digits.head? ≠ some '-' := fun head =>
    absurd (hex '-' (List.mem_of_head? head)) (by decide)
  rw [trim_of_plain fun c mem => not_isBlank_of_isHexDigit (hex c mem), isWhole, if_neg unsigned]
  simp [nonempty]

/-- Not too many hexadecimal digits are no broken number. -/
theorem not_isBrokenNumber_of_hex (few : digits.length ≤ maxDigits) :
    ¬IsBrokenNumber digits := by
  rintro ⟨-, ⟨c, mem, separates⟩ | long⟩
  · have blank := not_isBlank_of_isHexDigit (hex c mem)
    rw [isBlank, Bool.or_eq_false_iff] at blank
    exact Bool.false_ne_true (blank.2.symm.trans separates)
  · have count := digits.countP_le_length (p := isDecimalDigit)
    omega

end

/-- The 24 digits of an object identifier are always an identifier. It can be encoded unless all of
them are decimal digits and denote a number that is too large. -/
theorem Identifier.isEncodable_of_hex {text : String} (length : text.toList.length = 24)
    (hex : text.toList.all isHexDigit = true) :
    ∃ identifier, Identifier.ofText text = .ok identifier ∧
      (identifier.IsEncodable ↔ (text.toList.all isDecimalDigit = true →
        ofDigits (text.toList.filterMap digitValue?) < 2 ^ 63)) := by
  rw [List.all_eq_true] at hex
  have nonempty : text.toList ≠ [] := List.ne_nil_of_length_eq_add_one length
  have few : text.toList.length ≤ maxDigits := by
    rw [length]
    decide
  have unbroken : ¬IsBrokenKey text.toList := by
    rintro ⟨digits, same, count, -⟩
    rw [same, List.length_append, count] at length
    cases length
  obtain ⟨identifier, read⟩ := (Identifier.ofText_eq_ok_iff text).mpr
    ⟨not_isBrokenNumber_of_hex hex few, unbroken⟩
  refine ⟨identifier, read, ?_⟩
  rw [Identifier.isEncodable_iff read, isWhole_trim_of_hex hex nonempty]
  have denoted := fun decimal : text.toList.all isDecimalDigit = true =>
    readInteger_of_digits nonempty (List.all_eq_true.mp decimal) few
  constructor
  · intro encodable decimal
    have bounded := (encodable _ decimal (denoted decimal)).2
    omega
  · intro bounded n decimal value
    have small := bounded decimal
    rw [denoted decimal] at value
    rw [Document.IsEncodable, ← Except.ok.inj value]
    omega

end QueryPipeline.Document
