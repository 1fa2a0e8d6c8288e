import QueryPipeline.Number.Numeral
import QueryPipeline.Proofs.Failure
import QueryPipeline.Proofs.Text.Split

/-!
# Whole numbers that cannot be read

A text of digits is told to be a whole number after trimming, but it is read untrimmed. The reader
skips fewer blanks than trimming removes, and it takes no more digits than its bound. So among the
texts that pass for whole numbers those fail that hold an information separator or too many digits,
and no others.
-/

namespace QueryPipeline.Text

/-- Whether a character is one of the four information separators. -/
def isSeparator (c : Char) : Bool := 0x1C ≤ c.toNat && c.toNat ≤ 0x1F

/-- Whether a number is the code point of a blank. -/
def isBlankCode (n : Nat) : Bool :=
  (0x09 ≤ n && n ≤ 0x0D) || n == 0x20 || n == 0x85 || n == 0xA0 || n == 0x1680 ||
    (0x2000 ≤ n && n ≤ 0x200A) || n == 0x2028 || n == 0x2029 || n == 0x202F || n == 0x205F ||
    n == 0x3000 || (0x1C ≤ n && n ≤ 0x1F)

/-- No run of decimal digits holds a blank. -/
theorem isBlankCode_of_digitZeros :
    ∀ first ∈ digitZeros, ∀ value < 10, isBlankCode (first + value) = false := by decide

/-- No decimal digit is a blank. -/
theorem not_isBlank_of_isDecimalDigit {c : Char} (digit : isDecimalDigit c = true) :
    isBlank c = false := by
  obtain ⟨value, read⟩ := Option.isSome_iff_exists.mp digit
  obtain ⟨first, found, rfl⟩ := Option.map_eq_some_iff.mp read
  have inRun := List.find?_some found
  simp only [Bool.and_eq_true, decide_eq_true_eq] at inRun
  have code : first + (c.toNat - first) = c.toNat := by omega
  have blank := isBlankCode_of_digitZeros first (List.mem_of_find?_eq_some found)
    (c.toNat - first) (by omega)
  rw [code] at blank
  exact blank

/-- No decimal digit is a character that is none. -/
theorem ne_of_isDecimalDigit {c other : Char} (digit : isDecimalDigit c = true)
    (none : isDecimalDigit other = false) : c ≠ other := by
  rintro rfl
  rw [digit] at none
  cases none

/-- A blank is a separator exactly where it is no blank of a numeral. -/
theorem isSeparator_eq_not {c : Char} (blank : isBlank c = true) :
    isSeparator c = !isNumeralBlank c := by
  cases numeral : isNumeralBlank c with
  | false =>
    rw [isBlank, numeral, Bool.false_or] at blank
    exact blank
  | true =>
    simp only [isNumeralBlank, Bool.or_eq_true, Bool.and_eq_true, decide_eq_true_eq,
      beq_iff_eq] at numeral
    simp only [isSeparator, Bool.not_true, Bool.and_eq_false_iff, decide_eq_false_iff_not]
    omega

/-- A text is what trimming leaves of it with blanks on both sides. -/
theorem exists_eq_append_trimBy (blank : Char → Bool) (text : List Char) :
    ∃ front back, text = front ++ (trimBy blank text ++ back) ∧
      (∀ c ∈ front, blank c = true) ∧ ∀ c ∈ back, blank c = true := by
  let rest := text.dropWhile blank
  refine ⟨text.takeWhile blank, (rest.reverse.takeWhile blank).reverse, ?_, ?_, ?_⟩
  · have inner : trimBy blank text ++ (rest.reverse.takeWhile blank).reverse = rest := by
      rw [trimBy, ← List.reverse_append, List.takeWhile_append_dropWhile, List.reverse_reverse]
    rw [inner, List.takeWhile_append_dropWhile]
  · exact List.all_eq_true.mp List.all_takeWhile
  · intro c mem
    rw [List.mem_reverse] at mem
    exact List.all_eq_true.mp List.all_takeWhile c mem

/-- Trimming leaves a text without blanks as it is. -/
theorem trim_of_plain {text : List Char} (plain : ∀ c ∈ text, isBlank c = false) :
    trim text = text := by
  obtain ⟨front, back, split, frontBlank, backBlank⟩ := exists_eq_append_trimBy isBlank text
  rw [← trim] at split
  have none : ∀ {blanks : List Char}, (∀ c ∈ blanks, isBlank c = true) →
      (∀ c ∈ blanks, c ∈ text) → blanks = [] := by
    intro blanks blank inside
    refine List.eq_nil_iff_forall_not_mem.mpr fun c mem => ?_
    have blanked := blank c mem
    rw [plain c (inside c mem)] at blanked
    cases blanked
  have noFront := none frontBlank fun c mem => by
    rw [split]
    exact List.mem_append_left _ mem
  have noBack := none backBlank fun c mem => by
    rw [split]
    exact List.mem_append_right _ (List.mem_append_right _ mem)
  rw [noFront, noBack, List.nil_append, List.append_nil] at split
  exact split.symm

end QueryPipeline.Text

namespace QueryPipeline.Number

open Text

/-- A blank is no character of a numeral. -/
theorem not_isNumeralChar_of_isBlank {c : Char} (blank : isBlank c = true) :
    isNumeralChar c = false := by
  cases digit : isDecimalDigit c with
  | true =>
    rw [not_isBlank_of_isDecimalDigit digit] at blank
    cases blank
  | false =>
    have other : c ≠ '_' := by
      rintro rfl
      exact absurd blank (by decide)
    rw [isNumeralChar, digit, Bool.false_or, decide_eq_false other]

/-- What starts with no sign has none. -/
theorem takeSign_cons {c : Char} (minus : c ≠ '-') (plus : c ≠ '+') (rest : List Char) :
    takeSign (c :: rest) = (false, c :: rest) := by
  rw [takeSign]
  · rintro _ ⟨⟩
    exact minus rfl
  · rintro _ ⟨⟩
    exact plus rfl

/-- A text is malformed where a blank follows the blanks of a numeral at its start. -/
theorem readInteger_of_blank {text rest : List Char} {c : Char}
    (start : text.dropWhile isNumeralBlank = c :: rest) (blank : isBlank c = true) :
    readInteger text = .error .malformed := by
  have minus : c ≠ '-' := by
    rintro rfl
    exact absurd blank (by decide)
  have plus : c ≠ '+' := by
    rintro rfl
    exact absurd blank (by decide)
  have other := not_isNumeralChar_of_isBlank blank
  rw [readInteger, start, takeSign_cons minus plus]
  dsimp only
  rw [List.takeWhile_cons_of_neg (by rw [other]; exact Bool.false_ne_true)]
  rfl

/-- A text that passes for a whole number, in its parts. -/
structure WholeText where
  /-- The blanks at the start. -/
  front : List Char
  /-- Whether there is a minus sign. -/
  negative : Bool
  /-- The digits. -/
  digits : List Char
  /-- The blanks at the end. -/
  back : List Char
  /-- Only blanks come first. -/
  front_blank : ∀ c ∈ front, isBlank c = true
  /-- There is a digit. -/
  digits_nonempty : digits ≠ []
  /-- The digits are digits. -/
  digits_decimal : ∀ c ∈ digits, isDecimalDigit c = true
  /-- Only blanks come last. -/
  back_blank : ∀ c ∈ back, isBlank c = true

namespace WholeText

/-- The sign. -/
def sign (whole : WholeText) : List Char := if whole.negative then ['-'] else []

/-- The parts put together. -/
def text (whole : WholeText) : List Char :=
  whole.front ++ (whole.sign ++ (whole.digits ++ whole.back))

/-- A text that is whole when trimmed has such parts. -/
theorem exists_of_isWhole {text : List Char} (whole : isWhole (trim text) = true) :
    ∃ parts : WholeText, parts.text = text := by
  obtain ⟨front, back, split, frontBlank, backBlank⟩ := exists_eq_append_trimBy isBlank text
  rw [← trim] at split
  rw [isWhole] at whole
  by_cases signed : (trim text).head? = some '-'
  · obtain ⟨body, trimmed⟩ := List.head?_eq_some_iff.mp signed
    rw [if_pos signed, trimmed, List.tail_cons, Bool.and_eq_true, Bool.not_eq_true',
      List.isEmpty_eq_false_iff, List.all_eq_true] at whole
    rw [trimmed] at split
    exact ⟨⟨front, true, body, back, frontBlank, whole.1, whole.2, backBlank⟩, split.symm⟩
  · rw [if_neg signed, Bool.and_eq_true, Bool.not_eq_true', List.isEmpty_eq_false_iff,
      List.all_eq_true] at whole
    exact ⟨⟨front, false, trim text, back, frontBlank, whole.1, whole.2, backBlank⟩, split.symm⟩

variable (whole : WholeText)

/-- A digit comes after the sign. -/
theorem exists_digits_eq_cons : ∃ first rest, whole.digits = first :: rest ∧
    isDecimalDigit first = true := by
  cases digits : whole.digits with
  | nil => exact absurd digits whole.digits_nonempty
  | cons first rest =>
    exact ⟨first, rest, rfl, whole.digits_decimal first (digits ▸ List.mem_cons_self)⟩

/-- The sign and the digits are taken apart again. -/
theorem takeSign_sign_append :
    takeSign (whole.sign ++ (whole.digits ++ whole.back)) =
      (whole.negative, whole.digits ++ whole.back) := by
  rw [sign]
  cases whole.negative with
  | true => rfl
  | false =>
    obtain ⟨first, rest, digits, digit⟩ := whole.exists_digits_eq_cons
    have minus : first ≠ '-' := ne_of_isDecimalDigit digit (by decide)
    have plus : first ≠ '+' := ne_of_isDecimalDigit digit (by decide)
    rw [digits, if_neg Bool.false_ne_true, List.nil_append, List.cons_append,
      takeSign_cons minus plus]

/-- The digits are what is taken for a numeral. -/
theorem takeWhile_isNumeralChar :
    (whole.digits ++ whole.back).takeWhile isNumeralChar = whole.digits := by
  have inside : ∀ c ∈ whole.digits, isNumeralChar c = true := by
    intro c mem
    rw [isNumeralChar, whole.digits_decimal c mem, Bool.true_or]
  rw [List.takeWhile_append_of_pos inside]
  cases back : whole.back with
  | nil => simp
  | cons c rest =>
    have blank := whole.back_blank c (back ▸ List.mem_cons_self)
    simp [not_isNumeralChar_of_isBlank blank]

/-- The blanks at the end are what follows the numeral. -/
theorem dropWhile_isNumeralChar :
    (whole.digits ++ whole.back).dropWhile isNumeralChar = whole.back := by
  have parts := @List.takeWhile_append_dropWhile _ isNumeralChar (whole.digits ++ whole.back)
  rw [takeWhile_isNumeralChar] at parts
  exact List.append_cancel_left parts

/-- A text with a separator before its digits is malformed. -/
theorem readInteger_of_front (separator : ∃ c ∈ whole.front, isSeparator c = true) :
    readInteger whole.text = .error .malformed := by
  obtain ⟨c, mem, separates⟩ := separator
  cases kept : whole.front.dropWhile isNumeralBlank with
  | nil =>
    have numeral := List.dropWhile_eq_nil_iff.mp kept c mem
    rw [isSeparator_eq_not (whole.front_blank c mem), numeral] at separates
    cases separates
  | cons first rest =>
    have inside : first ∈ whole.front :=
      (List.dropWhile_sublist _).mem (kept ▸ List.mem_cons_self)
    have start : whole.text.dropWhile isNumeralBlank =
        first :: (rest ++ (whole.sign ++ (whole.digits ++ whole.back))) := by
      rw [text, List.dropWhile_append, kept]
      rfl
    exact readInteger_of_blank start (whole.front_blank first inside)

/-- A text without a separator before its digits is read from its sign on. -/
theorem dropWhile_isNumeralBlank (plain : ∀ c ∈ whole.front, isSeparator c = false) :
    whole.text.dropWhile isNumeralBlank = whole.sign ++ (whole.digits ++ whole.back) := by
  have skipped : ∀ c ∈ whole.front, isNumeralBlank c = true := by
    intro c mem
    have same := isSeparator_eq_not (whole.front_blank c mem)
    rw [plain c mem] at same
    simpa using same.symm
  rw [text, List.dropWhile_append_of_pos skipped, sign]
  cases whole.negative with
  | true => rfl
  | false =>
    obtain ⟨first, rest, digits, digit⟩ := whole.exists_digits_eq_cons
    have blank := not_isBlank_of_isDecimalDigit digit
    rw [isBlank, Bool.or_eq_false_iff] at blank
    rw [digits, if_neg Bool.false_ne_true, List.nil_append, List.cons_append,
      List.dropWhile_cons_of_neg (by rw [blank.1]; exact Bool.false_ne_true)]

/-- A text without a separator before its digits is read by the number of these and then by what
follows them. -/
theorem readInteger_text (plain : ∀ c ∈ whole.front, isSeparator c = false) :
    readInteger whole.text =
      if maxDigits < whole.digits.length then .error (.tooLong whole.digits.length)
      else if whole.back.all isNumeralBlank then
        .ok (signed whole.negative (ofDigits (whole.digits.filterMap digitValue?)))
      else .error .malformed := by
  have underscore : '_' ∉ whole.digits := by
    intro mem
    exact absurd (whole.digits_decimal _ mem) (by decide)
  have one : [whole.digits].any List.isEmpty = false := by
    simp [whole.digits_nonempty]
  have values : (whole.digits.filterMap digitValue?).length = whole.digits.length := by
    rw [List.length_filterMap_eq_countP]
    exact List.countP_eq_length.mpr whole.digits_decimal
  rw [readInteger, whole.dropWhile_isNumeralBlank plain, whole.takeSign_sign_append]
  dsimp only
  rw [whole.takeWhile_isNumeralChar, whole.dropWhile_isNumeralChar, splitOn_of_not_mem underscore,
    List.flatten_singleton, values, one, if_neg Bool.false_ne_true]

/-- The separators of a text are among its blanks. -/
theorem forall_not_isSeparator_iff : (∀ c ∈ whole.text, isSeparator c = false) ↔
    (∀ c ∈ whole.front, isSeparator c = false) ∧ ∀ c ∈ whole.back, isSeparator c = false := by
  have sign : ∀ c ∈ whole.sign, isSeparator c = false := by
    intro c mem
    rw [WholeText.sign] at mem
    split at mem
    · rw [List.mem_singleton.mp mem]
      rfl
    · cases mem
  have digits : ∀ c ∈ whole.digits, isSeparator c = false := by
    intro c mem
    have blank := not_isBlank_of_isDecimalDigit (whole.digits_decimal c mem)
    rw [isBlank, Bool.or_eq_false_iff] at blank
    exact blank.2
  simp only [text, List.forall_mem_append]
  constructor
  · intro plain
    exact ⟨plain.1, plain.2.2.2⟩
  · intro plain
    exact ⟨plain.1, sign, digits, plain.2⟩

/-- The digits of a text are all the digits in it. -/
theorem countP_isDecimalDigit : whole.text.countP isDecimalDigit = whole.digits.length := by
  have none : ∀ {blanks : List Char}, (∀ c ∈ blanks, isBlank c = true) →
      blanks.countP isDecimalDigit = 0 := by
    intro blanks blank
    refine List.countP_eq_zero.mpr fun c mem digit => ?_
    have other := blank c mem
    rw [not_isBlank_of_isDecimalDigit digit] at other
    cases other
  have sign : whole.sign.countP isDecimalDigit = 0 := by
    rw [WholeText.sign]
    cases whole.negative <;> rfl
  have digits := List.countP_eq_length.mpr whole.digits_decimal
  rw [text, List.countP_append, List.countP_append, List.countP_append, none whole.front_blank,
    sign, digits, none whole.back_blank]
  omega

end WholeText

/-- A text that passes for a whole number is read exactly where it has no information separator and
no more digits than the bound. -/
theorem readInteger_eq_ok_iff {text : List Char} (whole : isWhole (trim text) = true) :
    (∃ n, readInteger text = .ok n) ↔
      (∀ c ∈ text, isSeparator c = false) ∧ text.countP isDecimalDigit ≤ maxDigits := by
  obtain ⟨parts, rfl⟩ := WholeText.exists_of_isWhole whole
  rw [parts.forall_not_isSeparator_iff, parts.countP_isDecimalDigit]
  by_cases front : ∃ c ∈ parts.front, isSeparator c = true
  · rw [parts.readInteger_of_front front]
    refine iff_of_false (not_exists_error_eq_ok _) fun sound => ?_
    obtain ⟨c, mem, separates⟩ := front
    rw [sound.1.1 c mem] at separates
    cases separates
  · have plain : ∀ c ∈ parts.front, isSeparator c = false := by simpa using front
    have back : parts.back.all isNumeralBlank = true ↔ ∀ c ∈ parts.back, isSeparator c = false := by
      rw [List.all_eq_true]
      refine forall₂_congr fun c mem => ?_
      rw [isSeparator_eq_not (parts.back_blank c mem), Bool.not_eq_false']
    rw [parts.readInteger_text plain, ← back]
    split
    · next long =>
      refine iff_of_false (not_exists_error_eq_ok _) fun sound => ?_
      have short := sound.2
      omega
    · next short =>
      split
      · next blank => exact iff_of_true ⟨_, rfl⟩ ⟨⟨plain, blank⟩, by omega⟩
      · next other =>
        exact iff_of_false (not_exists_error_eq_ok _) fun sound => other sound.1.2

/-- A text of digits, not too many, is read as the number that they denote. -/
theorem readInteger_of_digits {digits : List Char} (nonempty : digits ≠ [])
    (decimal : ∀ c ∈ digits, isDecimalDigit c = true) (few : digits.length ≤ maxDigits) :
    readInteger digits = .ok (ofDigits (digits.filterMap digitValue?)) := by
  have read := WholeText.readInteger_text ⟨[], false, digits, [], List.forall_mem_nil _, nonempty,
    decimal, List.forall_mem_nil _⟩ (List.forall_mem_nil _)
  have text : [] ++ ([] ++ (digits ++ [])) = digits := List.append_nil digits
  rw [WholeText.text, WholeText.sign, if_neg Bool.false_ne_true, text] at read
  rw [read]
  exact if_neg (Nat.not_lt.mpr few)

/-- A text denotes a whole number exactly where it passes for one and is read as it. -/
theorem readNumeral_eq_int_iff {text : String} {n : Int} :
    readNumeral text = .ok (some (.int n)) ↔
      isWhole (trim text.toList) = true ∧ readInteger text.toList = .ok n := by
  rw [readNumeral]
  by_cases whole : isWhole (trim text.toList) = true
  · rw [if_pos whole]
    cases readInteger text.toList <;> simp [whole]
  · rw [if_neg whole]
    refine iff_of_false (fun read => ?_) fun both => whole both.1
    obtain ⟨x, -, same⟩ := Option.map_eq_some_iff.mp (Except.ok.inj read)
    cases same

/-- A text that passes for a whole number and cannot be read as one. -/
def IsBrokenNumber (text : List Char) : Prop :=
  isWhole (trim text) = true ∧
    ((∃ c ∈ text, isSeparator c = true) ∨ maxDigits < text.countP isDecimalDigit)

/-- The number of a text can be told, or that there is none, unless it is a broken number. -/
theorem readNumeral_eq_ok_iff (text : String) :
    (∃ number?, readNumeral text = .ok number?) ↔ ¬IsBrokenNumber text.toList := by
  rw [readNumeral, IsBrokenNumber]
  by_cases whole : isWhole (trim text.toList) = true
  · have read := readInteger_eq_ok_iff whole
    rw [if_pos whole]
    cases outcome : readInteger text.toList with
    | ok n =>
      obtain ⟨plain, short⟩ := read.mp ⟨n, outcome⟩
      refine iff_of_true ⟨_, rfl⟩ ?_
      rintro ⟨-, ⟨c, mem, separates⟩ | long⟩
      · rw [plain c mem] at separates
        cases separates
      · omega
    | error fault =>
      refine iff_of_false (not_exists_error_eq_ok _) fun sound => ?_
      rw [not_and, not_or] at sound
      obtain ⟨plain, short⟩ := sound whole
      have given : ∃ n, readInteger text.toList = .ok n := read.mpr ⟨by simpa using plain, by omega⟩
      rw [outcome] at given
      exact not_exists_error_eq_ok _ given
  · rw [if_neg whole]
    exact iff_of_true ⟨_, rfl⟩ fun broken => whole broken.1

end QueryPipeline.Number
