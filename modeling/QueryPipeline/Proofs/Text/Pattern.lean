import QueryPipeline.Text.Pattern

/-!
# Reading a literal text back

A regular expression stands for one text literally if no character in it means something of its own.
The text is what is left without the backslashes. Every text can be read back from the expression
that is made for it, and the expression is the text itself where no backslash is needed.
-/

namespace QueryPipeline.Text

/-- The characters that mean something of their own in a regular expression. -/
def isMetacharacter (c : Char) : Bool :=
  ['$', '(', ')', '*', '+', '.', '?', '[', '\x5c', ']', '^', '\x7b', '|', '\x7d'].contains c

/-- The text that a regular expression stands for literally. A backslash makes the character after
it literal, unless that is a letter or a digit, and every other character has to stand for
itself. -/
def readLiteral? : List Char → Option (List Char)
  | [] => some []
  | '\x5c' :: c :: rest => if c.isAlphanum then none else (readLiteral? rest).map (c :: ·)
  | c :: rest => if isMetacharacter c then none else (readLiteral? rest).map (c :: ·)

/-- No letter and no digit gets a backslash, so what follows a backslash is literal. -/
theorem isAlphanum_of_isSpecial {c : Char} (special : isSpecial c = true) :
    c.isAlphanum = false := by
  have none := (List.all_eq_true (p := fun c => !c.isAlphanum)).mp (by decide) c
    (List.contains_iff_mem.mp special)
  exact (Bool.not_eq_true' _).mp none

/-- Every character that means something of its own gets a backslash. -/
theorem isSpecial_of_isMetacharacter {c : Char} (meaning : isMetacharacter c = true) :
    isSpecial c = true :=
  (List.all_eq_true (p := isSpecial)).mp (by decide) c (List.contains_iff_mem.mp meaning)

/-- A character that needs no backslash is read as itself. -/
theorem readLiteral?_cons {c : Char} (plain : isSpecial c = false) (rest : List Char) :
    readLiteral? (c :: rest) = (readLiteral? rest).map (c :: ·) := by
  have other : c ≠ '\x5c' := by
    rintro rfl
    exact absurd plain (by decide)
  have itself : isMetacharacter c = false :=
    Bool.eq_false_iff.mpr fun meaning => by simp [isSpecial_of_isMetacharacter meaning] at plain
  rw [readLiteral?, if_neg (by simp [itself])]
  exact fun _ _ escape _ => other escape

/-- Every text is read back from the expression that is made for it. -/
theorem readLiteral?_literal (text : List Char) : readLiteral? (literal text) = some text := by
  induction text with
  | nil => rfl
  | cons c rest ih =>
    cases special : isSpecial c with
    | true =>
      rw [literal, if_pos special, readLiteral?, isAlphanum_of_isSpecial special, ih]
      rfl
    | false =>
      rw [literal, if_neg (by simp [special]), readLiteral?_cons special, ih]
      rfl

/-- An expression is at least as long as the text it is made for. -/
theorem length_le_length_literal (text : List Char) : text.length ≤ (literal text).length := by
  induction text with
  | nil => exact Nat.le_refl 0
  | cons c rest ih =>
    rw [literal]
    split <;> simp only [List.length_cons] <;> omega

/-- The expression that is made for a text is the text where nothing needs a backslash. -/
theorem literal_eq_self_iff (text : List Char) :
    literal text = text ↔ ∀ c ∈ text, isSpecial c = false := by
  induction text with
  | nil => exact iff_of_true rfl (List.forall_mem_nil _)
  | cons c rest ih =>
    rw [List.forall_mem_cons, ← ih, literal]
    cases special : isSpecial c with
    | true =>
      have longer := length_le_length_literal rest
      refine iff_of_false (fun same => ?_) (by simp)
      have lengths := congrArg List.length same
      rw [if_pos rfl] at lengths
      simp only [List.length_cons] at lengths
      omega
    | false => simp

end QueryPipeline.Text
