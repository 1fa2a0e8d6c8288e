import QueryPipeline.Document.ObjectId
import QueryPipeline.Proofs.Number.Written

/-!
# The digits of object identifiers

An object identifier is written with 24 hexadecimal digits of lower case that denote it. No other
text of lower case denotes it, so the digits and the identifier stand for each other. Digits of
upper case are read as well and denote the same identifiers.
-/

namespace QueryPipeline.Document

open Text

/-- One more hexadecimal digit makes a number sixteen times as large and adds the digit. -/
theorem ObjectId.ofHexDigits_concat (values : List Nat) (value : Nat) :
    ofHexDigits (values ++ [value]) = 16 * ofHexDigits values + value := List.foldl_append ..

section

variable {values : List Nat} (small : ∀ value ∈ values, value < 16)

include small

/-- Hexadecimal digits denote a number below a power of sixteen. -/
theorem ObjectId.ofHexDigits_lt : ObjectId.ofHexDigits values < 16 ^ values.length :=
  Number.foldl_digits_lt small

/-- The number that hexadecimal digits denote is written with these digits, in lower case. -/
theorem hexOfWidth_ofHexDigits :
    hexOfWidth values.length (ObjectId.ofHexDigits values) = values.map hexDigit := by
  induction values using List.reverseRecOn with
  | nil => rfl
  | append_singleton front value ih =>
    have last := small value (by simp)
    have rest := ih fun value mem => small value (List.mem_append_left _ mem)
    have quotient : (16 * ObjectId.ofHexDigits front + value) / 16 =
        ObjectId.ofHexDigits front := by omega
    have remainder : (16 * ObjectId.ofHexDigits front + value) % 16 = value := by omega
    rw [List.length_append, List.length_singleton, ObjectId.ofHexDigits_concat, hexOfWidth,
      quotient, remainder, rest, List.map_append, List.map_singleton]

end

/-- A number is written with as many hexadecimal digits as are asked for. -/
theorem length_hexOfWidth (width n : Nat) : (hexOfWidth width n).length = width := by
  induction width generalizing n with
  | zero => rfl
  | succ width ih => rw [hexOfWidth, List.length_append, ih, List.length_singleton]

/-- The characters of a written number are digits of values below sixteen. -/
theorem exists_of_mem_hexOfWidth {width n : Nat} :
    ∀ c ∈ hexOfWidth width n, ∃ value < 16, c = hexDigit value := by
  induction width generalizing n with
  | zero => exact List.forall_mem_nil _
  | succ width ih =>
    rw [hexOfWidth, List.forall_mem_append, List.forall_mem_singleton]
    exact ⟨ih, n % 16, Nat.mod_lt n (by decide), rfl⟩

/-- The digits of a number that is short enough denote the number. -/
theorem ObjectId.ofHexDigits_hexOfWidth {width n : Nat} (short : n < 16 ^ width) :
    ofHexDigits ((hexOfWidth width n).filterMap hexValue?) = n := by
  induction width generalizing n with
  | zero =>
    have zero : n = 0 := by simpa using short
    rw [zero]
    rfl
  | succ width ih =>
    rw [Nat.pow_succ] at short
    have last : [hexDigit (n % 16)].filterMap hexValue? = [n % 16] := by
      rw [List.filterMap_cons_some (hexValue?_hexDigit (Nat.mod_lt n (by decide))),
        List.filterMap_nil]
    rw [hexOfWidth, List.filterMap_append, last, ofHexDigits_concat, ih (by omega)]
    omega

/-- A character that is no hexadecimal digit of upper case. -/
def IsLower (c : Char) : Prop := ∀ value, hexValue? c = some value → c = hexDigit value

/-- A written digit is of lower case. -/
theorem isLower_hexDigit {value : Nat} (small : value < 16) : IsLower (hexDigit value) := by
  intro other read
  rw [hexValue?_hexDigit small] at read
  rw [Option.some.inj read]

/-- The value of a hexadecimal digit is below sixteen. -/
theorem hexValue?_lt {c : Char} {value : Nat} (read : hexValue? c = some value) : value < 16 := by
  rw [hexValue?] at read
  grind

/-- The values of hexadecimal digits of lower case are written with the digits. -/
theorem map_hexDigit_filterMap {text : List Char} (hex : text.all isHexDigit = true)
    (lower : ∀ c ∈ text, IsLower c) : (text.filterMap hexValue?).map hexDigit = text := by
  induction text with
  | nil => rfl
  | cons c rest ih =>
    rw [List.all_cons, Bool.and_eq_true] at hex
    rw [List.forall_mem_cons] at lower
    obtain ⟨value, read⟩ := Option.isSome_iff_exists.mp hex.1
    rw [List.filterMap_cons_some read, List.map_cons, ih hex.2 lower.2, ← lower.1 value read]

namespace ObjectId

/-- The digits of an object identifier that is read from lower case are the text. -/
theorem text_of_ofText? {text : List Char} {id : ObjectId}
    (read : ObjectId.ofText? text = some id) (lower : ∀ c ∈ text, IsLower c) : id.text = text := by
  rw [ObjectId.ofText?] at read
  split at read
  · next digits =>
    obtain ⟨length, hex⟩ := digits
    cases read
    have small : ∀ value ∈ text.filterMap hexValue?, value < 16 := by
      intro value mem
      obtain ⟨c, -, valued⟩ := List.mem_filterMap.mp mem
      exact hexValue?_lt valued
    have same := map_hexDigit_filterMap hex lower
    have count : (text.filterMap hexValue?).length = 24 := by
      rw [← length, ← congrArg List.length same, List.length_map]
    have fits : ObjectId.ofHexDigits (text.filterMap hexValue?) < Nat.pow 16 24 :=
      count ▸ ObjectId.ofHexDigits_lt small
    have written := hexOfWidth_ofHexDigits small
    rw [count, same] at written
    rw [ObjectId.text, Fin.val_ofNat, Nat.mod_eq_of_lt fits, written]
  · cases read

/-- The digits of an object identifier are of lower case. -/
theorem isLower_of_mem_text {id : ObjectId} : ∀ c ∈ id.text, IsLower c := by
  intro c mem
  obtain ⟨value, small, rfl⟩ := exists_of_mem_hexOfWidth c mem
  exact isLower_hexDigit small

/-- The digits of an object identifier denote it. -/
theorem ofText?_text (id : ObjectId) : ObjectId.ofText? id.text = some id := by
  have hex : id.text.all isHexDigit = true := by
    rw [List.all_eq_true]
    intro c mem
    obtain ⟨value, small, rfl⟩ := exists_of_mem_hexOfWidth c mem
    rw [isHexDigit, hexValue?_hexDigit small, Option.isSome_some]
  have number : ofHexDigits (id.text.filterMap hexValue?) = id.number :=
    ofHexDigits_hexOfWidth id.number.isLt
  rw [ObjectId.ofText?, if_pos ⟨length_hexOfWidth 24 _, hex⟩, number]
  exact congrArg some (congrArg ObjectId.mk (Fin.ext (Nat.mod_eq_of_lt id.number.isLt)))

end ObjectId

end QueryPipeline.Document
