import QueryPipeline.Pipeline.Condition
import QueryPipeline.Proofs.Document.Encoding
import QueryPipeline.Proofs.Document.ObjectId

/-!
# Identifiers that are whole numbers

A document whose identifier is a whole number is looked up by the decimal text of the number, by the
number itself and by the key that the text stands for, which is an object identifier where there are
24 digits. Each of the three gives the number back, and no two of them can be taken for each other,
so the lookups of different numbers have nothing in common. This is open to no rounding: only a text
that does not pass for a whole number is read as a decimal fraction.
-/

namespace QueryPipeline.Document

open Number Pipeline Text

/-- A key as it is written. -/
def Key.written : Key → List Char
  | objectId id => id.text
  | text value => value.toList

/-- The key of a text without hexadecimal digits of upper case is written as the text. -/
theorem Key.written_of_ofText {text : String} {key : Key} (read : Key.ofText text = .ok key)
    (lower : ∀ c ∈ text.toList, IsLower c) : key.written = text.toList := by
  rw [Key.ofText] at read
  cases id? : ObjectId.ofText? text.toList with
  | some id =>
    rw [id?] at read
    cases read
    exact ObjectId.text_of_ofText? id? lower
  | none =>
    rw [id?] at read
    dsimp only at read
    split at read
    · cases read
    · cases read
      rfl

/-- No character of the decimal text of a whole number is an upper case digit. -/
theorem isLower_of_mem_decimal {n : Int} : ∀ c ∈ decimal n, IsLower c := by
  have digits : ∀ c ∈ Nat.toDigits 10 n.natAbs, IsLower c := by
    intro c mem value read
    have digit := Nat.isDigit_of_mem_toDigits (by decide) (by decide) mem
    rw [Char.isDigit, Bool.and_eq_true, decide_eq_true_eq, decide_eq_true_eq] at digit
    have low : 0x30 ≤ c.toNat := digit.1
    have high : c.toNat ≤ 0x39 := digit.2
    rw [hexValue?, if_pos ⟨low, high⟩] at read
    cases read
    rw [hexDigit, if_pos (by omega), Nat.add_sub_cancel' low, Char.ofNat_toNat]
  have sign : IsLower '-' := by
    intro value read
    cases read
  rw [decimal]
  split
  · exact List.forall_mem_cons.mpr ⟨sign, digits⟩
  · exact digits

/-- Different whole numbers that can be written have different texts. -/
theorem decimalString_injective {m n : Int} (first : isWritable m = true)
    (second : isWritable n = true) (same : decimalString m = decimalString n) : m = n := by
  have texts : decimal m = decimal n := String.ofList_injective same
  have read := readInteger_decimal first
  rw [texts, readInteger_decimal second] at read
  exact (Except.ok.inj read).symm

/-- The key of a whole number is written as its decimal text. -/
theorem Key.written_decimalString {n : Int} {key : Key}
    (read : Key.ofText (decimalString n) = .ok key) : key.written = decimal n := by
  have text : (decimalString n).toList = decimal n := String.toList_ofList
  rw [← text]
  exact Key.written_of_ofText read (text ▸ isLower_of_mem_decimal)

/-- The decimal text of a whole number stands for a key. -/
theorem Key.exists_ofText_decimalString (n : Int) :
    ∃ key, Key.ofText (decimalString n) = .ok key := by
  rw [Key.ofText_eq_ok_iff, decimalString, String.toList_ofList]
  rintro ⟨digits, same, -⟩
  have last : '\n' ∈ decimal n := by
    rw [same]
    exact List.mem_concat_self
  exact absurd (not_isBlank_of_mem_decimal _ last) (by decide)

/-- A whole number that can be written denotes itself. -/
theorem readNumeral_decimalString {n : Int} (writable : isWritable n = true) :
    readNumeral (decimalString n) = .ok (some (.int n)) := by
  rw [readNumeral_eq_int_iff, decimalString, String.toList_ofList]
  exact ⟨isWhole_trim_decimal n, readInteger_decimal writable⟩

/-- The forms of a whole number as an identifier. -/
def Identifier.ofInt (n : Int) (key : Key) : Identifier := ⟨decimalString n, some (.int n), key⟩

/-- An identifier that is given as a text is read from it. -/
theorem Identifier.ofGiven_text (text : String) :
    Identifier.ofGiven (.text text) = Identifier.ofText text := by
  rw [Identifier.ofGiven, GivenId.toText, Except.bind]

/-- A whole number that can be written is an identifier with three forms, and so is its text. -/
theorem Identifier.ofGiven_int {n : Int} (writable : isWritable n = true) :
    ∃ key, Key.ofText (decimalString n) = .ok key ∧
      Identifier.ofGiven (.text (decimalString n)) = .ok (.ofInt n key) ∧
      Identifier.ofGiven (.int n) = .ok (.ofInt n key) := by
  obtain ⟨key, keyed⟩ := Key.exists_ofText_decimalString n
  have own : Identifier.ofGiven (.text (decimalString n)) = .ok (.ofInt n key) := by
    rw [Identifier.ofGiven_text, Identifier.ofText, readNumeral_decimalString writable, keyed]
    rfl
  refine ⟨key, keyed, own, ?_⟩
  rw [Identifier.ofGiven, GivenId.toText, if_pos writable]
  exact own

/-- The clauses for a whole number. -/
theorem identifierClauses_ofInt (n : Int) (key : Key) :
    identifierClauses (.ofInt n key) =
      [single "id" (.text (decimalString n)), single "id" (.int n), single "_id" key.toValue] := rfl

/-- Keys that are the same value are the same key. -/
theorem Key.toValue_injective {first second : Key} (same : first.toValue = second.toValue) :
    first = second := by
  cases first <;> cases second <;> cases same <;> rfl

/-- The lookups of different whole numbers have no clause in common. -/
theorem disjoint_identifierClauses {m n : Int} {first second : Key} (different : m ≠ n)
    (firstWritable : isWritable m = true) (secondWritable : isWritable n = true)
    (firstRead : Key.ofText (decimalString m) = .ok first)
    (secondRead : Key.ofText (decimalString n) = .ok second) :
    (identifierClauses (.ofInt m first)).Disjoint (identifierClauses (.ofInt n second)) := by
  have texts : decimalString m ≠ decimalString n := fun same =>
    different (decimalString_injective firstWritable secondWritable same)
  have keys : first.toValue ≠ second.toValue := by
    intro same
    have written := Key.written_decimalString firstRead
    rw [Key.toValue_injective same, Key.written_decimalString secondRead] at written
    exact texts (congrArg String.ofList written.symm)
  intro clause mem again
  rw [identifierClauses_ofInt, List.mem_cons, List.mem_cons, List.mem_singleton] at mem again
  -- A clause on one field with one kind of value can only be the clause of the same kind.
  obtain rfl | rfl | rfl := mem
  · simp [single, texts] at again
  · simp [single, different] at again
  · simp [single, keys] at again

/-- A decimal fraction that is read is finite. -/
theorem isFinite_of_readNumeral {text : String} {x : Binary64}
    (read : readNumeral text = .ok (some (.float x))) : x.isFinite = true := by
  rw [readNumeral] at read
  split at read
  · split at read <;> cases read
  · obtain ⟨found, kept, same⟩ := Option.map_eq_some_iff.mp (Except.ok.inj read)
    cases same
    exact (Option.filter_eq_some_iff.mp kept).2

/-- Looking up whole numbers is exact. A number that can be written and its decimal text are the
same identifier, and it is looked up by its text, by itself as a whole number and by the key that
the text stands for. The lookups of two such numbers have no clause in common. Whatever else is read
as a number is finite. -/
theorem whole_numbers_looked_up_exactly :
    (∀ n, isWritable n = true → ∃ identifier key, Identifier.ofGiven (.int n) = .ok identifier ∧
      Identifier.ofGiven (.text (decimalString n)) = .ok identifier ∧
      Key.ofText (decimalString n) = .ok key ∧
      (Condition.identified identifier).toValue = single "$or" (.array
        [single "id" (.text (decimalString n)), single "id" (.int n),
          single "_id" key.toValue])) ∧
    (∀ m n, isWritable m = true → isWritable n = true → m ≠ n → ∀ first second,
      Identifier.ofGiven (.int m) = .ok first → Identifier.ofGiven (.int n) = .ok second →
        (identifierClauses first).Disjoint (identifierClauses second)) ∧
    ∀ text x, readNumeral text = .ok (some (.float x)) → x.isFinite = true := by
  refine ⟨?_, ?_, fun text x => isFinite_of_readNumeral⟩
  · intro n writable
    obtain ⟨key, keyed, own, given⟩ := Identifier.ofGiven_int writable
    exact ⟨.ofInt n key, key, given, own, keyed, rfl⟩
  · intro m n firstWritable secondWritable different first second firstRead secondRead
    obtain ⟨key, keyed, -, given⟩ := Identifier.ofGiven_int firstWritable
    obtain ⟨other, otherKeyed, -, otherGiven⟩ := Identifier.ofGiven_int secondWritable
    rw [given] at firstRead
    rw [otherGiven] at secondRead
    cases firstRead
    cases secondRead
    exact disjoint_identifierClauses different firstWritable secondWritable keyed otherKeyed

/-- The forms of a whole number of 24 digits, which are those of an object identifier. -/
def longIdentifier : Identifier :=
  .ofInt 507199887766554433221100 (.objectId ⟨⟨0x507199887766554433221100, by decide⟩⟩)

/-- The forms of the next whole number. -/
def nextIdentifier : Identifier :=
  .ofInt 507199887766554433221101 (.objectId ⟨⟨0x507199887766554433221101, by decide⟩⟩)

/-- Two numbers that are one floating point number, and stand for object identifiers, are looked up
apart from each other; a fraction that is read is finite. -/
theorem long_numbers_looked_up_apart :
    Binary64.ofInt 507199887766554433221100 = Binary64.ofInt 507199887766554433221101 ∧
      isWritable 507199887766554433221100 = true ∧ isWritable 507199887766554433221101 = true ∧
      (507199887766554433221100 : Int) ≠ 507199887766554433221101 ∧
      Identifier.ofGiven (.int 507199887766554433221100) = .ok longIdentifier ∧
      Identifier.ofGiven (.text (decimalString 507199887766554433221100)) = .ok longIdentifier ∧
      Identifier.ofGiven (.int 507199887766554433221101) = .ok nextIdentifier ∧
      (identifierClauses longIdentifier).Disjoint (identifierClauses nextIdentifier) ∧
      readNumeral "-0.5e3" = .ok (some (.float (.finite true (500 * Binary64.one)))) ∧
      (Binary64.finite true (500 * Binary64.one)).isFinite = true := by
  have writable : isWritable 507199887766554433221100 = true := by decide +kernel
  have nextWritable : isWritable 507199887766554433221101 = true := by decide +kernel
  have different : (507199887766554433221100 : Int) ≠ 507199887766554433221101 := by decide
  have given : Identifier.ofGiven (.int 507199887766554433221100) = .ok longIdentifier :=
    eq_ok_of_toOption (by decide +kernel)
  have next : Identifier.ofGiven (.int 507199887766554433221101) = .ok nextIdentifier :=
    eq_ok_of_toOption (by decide +kernel)
  have fraction : readNumeral "-0.5e3" = .ok (some (.float (.finite true (500 * Binary64.one)))) :=
    eq_ok_of_toOption (by decide +kernel)
  have rounded : Binary64.ofInt 507199887766554433221100 =
      Binary64.ofInt 507199887766554433221101 := by
    decide +kernel
  obtain ⟨looked, apart, finite⟩ := whole_numbers_looked_up_exactly
  obtain ⟨identifier, key, own, text, -, -⟩ := looked _ writable
  rw [given] at own
  cases own
  have disjoint := apart _ _ writable nextWritable different _ _ given next
  have bounded := finite _ _ fraction
  exact ⟨rounded, writable, nextWritable, different, given, text, next, disjoint, fraction,
    bounded⟩

end QueryPipeline.Document
