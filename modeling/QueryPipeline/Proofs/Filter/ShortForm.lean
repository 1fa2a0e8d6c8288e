import Mathlib.Data.List.Basic
import QueryPipeline.Filter.Compile
import QueryPipeline.Proofs.Filter.FullForm

/-!
# The short form of a filter

A short form leaves out the type and the operator of a filter. What it means is told by rules on its
field and its value: a comma makes a list, and otherwise the type is that of the shape the value has
and the operator is that of a range where the value holds the mark of one. The rules are stated here
without the reader, the shapes as the texts that have them, and the reader is shown to follow them.
Whether an operator goes with its type does not matter here, and neither does whether the value can
be converted.
-/

namespace QueryPipeline

open Text Time

/-- A text has a shape up to a line break at its end. -/
def UpToBreak (shape : List Char → Prop) (text : List Char) : Prop :=
  ∃ body ending, shape body ∧ (ending = [] ∨ ending = ['\n']) ∧ text = body ++ ending

/-- A text is a day: four, two and two digits of any script, joined by hyphens. -/
def IsDay (text : List Char) : Prop :=
  ∃ a b c d e f g h : Char, (∀ digit ∈ [a, b, c, d, e, f, g, h], isDecimalDigit digit = true) ∧
    text = [a, b, c, d, '-', e, f, '-', g, h]

/-- A text is a day or two days, joined by the mark of a range. -/
inductive IsDays : List Char → Prop
  /-- One day. -/
  | one {day : List Char} (shape : IsDay day) : IsDays day
  /-- A first and a last day. -/
  | two {first last : List Char} (front : IsDay first) (back : IsDay last) :
    IsDays (first ++ rangeMark :: last)

/-- A text is an amount: digits of any script and points, at least one of them. -/
def IsAmount (text : List Char) : Prop :=
  text ≠ [] ∧ ∀ c ∈ text, isDecimalDigit c = true ∨ c = '.'

section

variable {text rest : List Char}

/-- Nothing follows the end of a text but perhaps a line break. -/
theorem isFinal_iff : isFinal text = true ↔ text = [] ∨ text = ['\n'] := by
  rw [isFinal, Bool.or_eq_true, beq_iff_eq, beq_iff_eq]

/-- What follows a day at the start is told by the day. -/
theorem afterDay?_eq_some_iff :
    afterDay? text = some rest ↔ ∃ day, IsDay day ∧ text = day ++ rest := by
  constructor
  · intro found
    rw [afterDay?.eq_def] at found
    split at found
    · next a b c d e f g h tail =>
      split at found
      · next digits =>
        cases found
        exact ⟨_, ⟨a, b, c, d, e, f, g, h, List.all_eq_true.mp digits, rfl⟩, rfl⟩
      · cases found
    · cases found
  · rintro ⟨_, ⟨a, b, c, d, e, f, g, h, digits, rfl⟩, rfl⟩
    exact if_pos (List.all_eq_true.mpr digits)

/-- The texts that are taken for days are days up to a line break. -/
theorem isDayShaped_iff : isDayShaped text = true ↔ UpToBreak IsDay text := by
  rw [isDayShaped, Option.any_eq_true]
  constructor
  · rintro ⟨rest, found, final⟩
    obtain ⟨day, shape, same⟩ := afterDay?_eq_some_iff.mp found
    exact ⟨day, rest, shape, isFinal_iff.mp final, same⟩
  · rintro ⟨day, ending, shape, final, same⟩
    exact ⟨ending, afterDay?_eq_some_iff.mpr ⟨day, shape, same⟩, isFinal_iff.mpr final⟩

/-- The texts that are taken for one day or two are so up to a line break. -/
theorem isDaysShaped_iff : isDaysShaped text = true ↔ UpToBreak IsDays text := by
  constructor
  · intro shaped
    rw [isDaysShaped] at shaped
    split at shaped
    · next rest found =>
      obtain ⟨first, front, rfl⟩ := afterDay?_eq_some_iff.mp found
      obtain ⟨last, ending, back, final, rfl⟩ := isDayShaped_iff.mp shaped
      exact ⟨_, ending, .two front back, final, by simp [rangeMark]⟩
    · next rest _ found =>
      obtain ⟨day, shape, rfl⟩ := afterDay?_eq_some_iff.mp found
      exact ⟨day, rest, .one shape, isFinal_iff.mp shaped, rfl⟩
    · cases shaped
  · rintro ⟨body, ending, shape, final, rfl⟩
    cases shape with
    | one shape =>
      have found : afterDay? (body ++ ending) = some ending :=
        afterDay?_eq_some_iff.mpr ⟨body, shape, rfl⟩
      rw [isDaysShaped, found]
      obtain rfl | rfl := final <;> rfl
    | @two first last front back =>
      have found : afterDay? (first ++ rangeMark :: last ++ ending) =
          some ('~' :: (last ++ ending)) :=
        afterDay?_eq_some_iff.mpr ⟨first, front, by simp [rangeMark]⟩
      rw [isDaysShaped, found]
      exact isDayShaped_iff.mpr ⟨last, ending, back, final, rfl⟩

/-- The texts that are taken for amounts are so up to a line break. -/
theorem isAmountShaped_iff : isAmountShaped text = true ↔ UpToBreak IsAmount text := by
  have body : ∀ {text : List Char},
      (!text.isEmpty && text.all fun c => isDecimalDigit c || c == '.') = true ↔
        IsAmount text := by
    intro text
    simp [IsAmount]
  rw [isAmountShaped]
  split
  · next last =>
    obtain ⟨front, rfl⟩ := List.getLast?_eq_some_iff.mp last
    rw [List.dropLast_concat, body]
    constructor
    · intro amount
      exact ⟨front, ['\n'], amount, .inr rfl, rfl⟩
    · rintro ⟨other, ending, amount, rfl | rfl, same⟩
      · -- A line break is no part of an amount.
        rw [List.append_nil] at same
        have inside := amount.2 '\n' (same ▸ List.mem_append_right _ (List.mem_singleton_self _))
        exact absurd inside (by decide)
      · rwa [(List.append_inj_left' same rfl)]
  · next other =>
    rw [body]
    constructor
    · intro amount
      exact ⟨text, [], amount, .inl rfl, (List.append_nil text).symm⟩
    · rintro ⟨front, ending, amount, rfl | rfl, rfl⟩
      · rwa [List.append_nil]
      · exact absurd List.getLast?_concat other

end

/-- The rules for the type that a value without a comma means. -/
inductive MeansType (field : String) (value : List Char) : FilterType → Prop
  /-- Days are compared as days. -/
  | date (days : UpToBreak IsDays value) : MeansType field value .date
  /-- Amounts are compared as numbers, unless the field is always one of texts. -/
  | amount (undated : ¬UpToBreak IsDays value) (shape : UpToBreak IsAmount value)
    (free : field ∉ textFields) : MeansType field value .amount
  /-- Anything else is compared as a text. -/
  | string (undated : ¬UpToBreak IsDays value)
    (forced : UpToBreak IsAmount value → field ∈ textFields) : MeansType field value .string

/-- The rules for the operator that a value without a comma means. -/
inductive MeansOperator (field : String) (value : List Char) : Operator → Prop
  /-- The mark of a range makes a range. -/
  | range (marked : rangeMark ∈ value) : MeansOperator field value .range
  /-- Some fields are compared as a whole. -/
  | equal (unmarked : rangeMark ∉ value) (whole : field ∈ wholeFields) :
    MeansOperator field value .equal
  /-- Any other field has the value as a part. -/
  | has (unmarked : rangeMark ∉ value) (part : field ∉ wholeFields) :
    MeansOperator field value .has

/-- The rules for what a short form means: a comma makes a list, whatever else the value is. -/
inductive Means (field : String) (value : List Char) : FilterType → Operator → Prop
  /-- One of the items between commas. -/
  | list (comma : ',' ∈ value) : Means field value .array .anyOf
  /-- One value, or the two ends of a range. -/
  | plain {type : FilterType} {operator : Operator} (single : ',' ∉ value)
    (typed : MeansType field value type) (compared : MeansOperator field value operator) :
    Means field value type operator

section

variable {field : String} {value : List Char} {type : FilterType} {operator : Operator}

/-- The type that a value without a comma is given is the one that the rules tell. -/
theorem meansType_iff : MeansType field value type ↔ impliedType field value = type := by
  have amounts : (isAmountShaped value && !textFields.contains field) = true ↔
      UpToBreak IsAmount value ∧ field ∉ textFields := by
    rw [Bool.and_eq_true, isAmountShaped_iff, Bool.not_eq_true', List.contains_eq_mem,
      decide_eq_false_iff_not]
  rw [impliedType]
  constructor
  · intro typed
    cases typed with
    | date days => exact if_pos (isDaysShaped_iff.mpr days)
    | amount undated shape free =>
      rw [if_neg (mt isDaysShaped_iff.mp undated), if_pos (amounts.mpr ⟨shape, free⟩)]
    | string undated forced =>
      rw [if_neg (mt isDaysShaped_iff.mp undated), if_neg]
      intro taken
      obtain ⟨shape, free⟩ := amounts.mp taken
      exact free (forced shape)
  · rintro rfl
    split
    · next days => exact .date (isDaysShaped_iff.mp days)
    · next other =>
      have undated : ¬UpToBreak IsDays value := mt isDaysShaped_iff.mpr other
      split
      · next taken =>
        obtain ⟨shape, free⟩ := amounts.mp taken
        exact .amount undated shape free
      · next untaken =>
        refine .string undated fun shape => ?_
        by_contra free
        exact untaken (amounts.mpr ⟨shape, free⟩)

/-- The operator that a value without a comma is given is the one that the rules tell. -/
theorem meansOperator_iff :
    MeansOperator field value operator ↔ impliedOperator field value = operator := by
  rw [impliedOperator, List.contains_eq_mem, List.contains_eq_mem, ← rangeMark]
  constructor
  · intro compared
    cases compared with
    | range marked => exact if_pos (decide_eq_true marked)
    | equal unmarked whole =>
      rw [if_neg (mt of_decide_eq_true unmarked), if_pos (decide_eq_true whole)]
    | has unmarked part =>
      rw [if_neg (mt of_decide_eq_true unmarked), if_neg (mt of_decide_eq_true part)]
  · rintro rfl
    split
    · next marked => exact .range (of_decide_eq_true marked)
    · next other =>
      have unmarked : rangeMark ∉ value := mt decide_eq_true other
      split
      · next whole => exact .equal unmarked (of_decide_eq_true whole)
      · next part => exact .has unmarked (mt decide_eq_true part)

/-- The type and the operator that a short form is given are those that the rules tell. -/
theorem means_iff : Means field value type operator ↔ implied field value = (type, operator) := by
  rw [implied, List.contains_eq_mem]
  constructor
  · intro means
    cases means with
    | list comma => exact if_pos (decide_eq_true comma)
    | plain single typed compared =>
      rw [if_neg (by simpa using single), meansType_iff.mp typed, meansOperator_iff.mp compared]
  · intro given
    split at given
    · next comma =>
      cases given
      exact .list (of_decide_eq_true comma)
    · next single =>
      cases given
      rw [decide_eq_true_eq] at single
      exact .plain single (meansType_iff.mpr rfl) (meansOperator_iff.mpr rfl)

end

/-- The tokens of a short form: a field and a value, which is the third token unless that is empty
or missing. -/
inductive IsShort (field value : List Char) : List (List Char) → Prop
  /-- There is no third token. -/
  | two : IsShort field value [field, value]
  /-- The third token is empty. -/
  | empty : IsShort field value [field, value, []]
  /-- The third token is the value, and the second is left out. -/
  | three {other : List Char} (given : value ≠ []) : IsShort field value [field, other, value]

section

variable {field value : List Char} {tokens : List (List Char)}

/-- Two or three tokens are those of a short form. -/
theorem exists_isShort (count : tokens.length = 2 ∨ tokens.length = 3) :
    ∃ field value, IsShort field value tokens := by
  obtain two | three := count
  · obtain ⟨field, value, rfl⟩ := List.length_eq_two.mp two
    exact ⟨field, value, .two⟩
  · obtain ⟨field, first, second, rfl⟩ := List.length_eq_three.mp three
    by_cases empty : second = []
    · exact ⟨field, first, empty ▸ .empty⟩
    · exact ⟨field, second, .three empty⟩

/-- The field of a short form is one of its tokens. -/
theorem IsShort.field_mem (short : IsShort field value tokens) : field ∈ tokens := by
  cases short <;> exact List.mem_cons_self

/-- The value of a short form is one of its tokens. -/
theorem IsShort.value_mem (short : IsShort field value tokens) : value ∈ tokens := by
  cases short <;> simp

/-- Tokens are those of a short form in one way only. -/
theorem IsShort.unique {otherField otherValue : List Char} (short : IsShort field value tokens)
    (other : IsShort otherField otherValue tokens) : field = otherField ∧ value = otherValue := by
  cases short with
  | two =>
    cases other
    exact ⟨rfl, rfl⟩
  | empty =>
    cases other with
    | empty => exact ⟨rfl, rfl⟩
    | three given => exact absurd rfl given
  | three given =>
    cases other with
    | empty => exact absurd rfl given
    | three => exact ⟨rfl, rfl⟩

/-- The tokens of a short form are read as its field and its value. -/
theorem IsShort.ofTokens (short : IsShort field value tokens) :
    Filter.ofTokens tokens = shortFilter field value := by
  cases short with
  | two | empty => rfl
  | three given =>
    rw [Filter.ofTokens, List.isEmpty_eq_false_iff.mpr given, if_neg Bool.noConfusion]

end

/-- The text of the full form that has a field, a type, an operator and a value and no share. -/
def explicitText (field : String) (type : FilterType) (operator : Operator) (value : String) :
    String :=
  field ++ "|" ++ type.token ++ "|" ++ operator.token ++ "|" ++ value

section

variable {field value : String} {type : FilterType} {operator : Operator}

/-- A full form is read part by part. -/
theorem read_explicitText (type : FilterType) (operator : Operator)
    (fieldOne : filterSeparator ∉ field.toList) (valueOne : filterSeparator ∉ value.toList) :
    Filter.read (explicitText field type operator value) =
      ⟨nonEmpty? field.toList, some type, some operator,
        some (readOperand (some operator) value.toList), none⟩ := by
  have joined : (explicitText field type operator value).toList = joinWith filterSeparator
      [field.toList, type.token.toList, operator.token.toList, value.toList] := by
    simp [explicitText, joinWith, filterSeparator]
  have one : ∀ token ∈ [field.toList, type.token.toList, operator.token.toList, value.toList],
      filterSeparator ∉ token := by
    rw [List.forall_mem_cons, List.forall_mem_cons, List.forall_mem_cons,
      List.forall_mem_singleton]
    exact ⟨fieldOne, type.separator_not_mem, operator.separator_not_mem, valueOne⟩
  rw [Filter.read, joined, splitOn_joinWith (List.cons_ne_nil _ _) one, Filter.ofTokens,
    fullFilter_token]

/-- A short form is read as the full form with the type and the operator that it means. -/
theorem IsShort.read_eq {text : String}
    (short : IsShort field.toList value.toList (splitOn filterSeparator text.toList))
    (means : Means field value.toList type operator) :
    Filter.read text = Filter.read (explicitText field type operator value) := by
  rw [read_explicitText type operator (not_mem_of_mem_splitOn short.field_mem)
      (not_mem_of_mem_splitOn short.value_mem),
    Filter.read, short.ofTokens, shortFilter, String.ofList_toList, means_iff.mp means]

/-- A text of two or three tokens has a meaning by the rules on its field and its value. It is read
as a filter with the type and the operator of that meaning and without a share, and so is the full
form with that type and that operator, so both compile alike. -/
theorem short_form_means_full_form (text : String)
    (count : (splitOn filterSeparator text.toList).length = 2 ∨
      (splitOn filterSeparator text.toList).length = 3) :
    ∃ field value : String,
      IsShort field.toList value.toList (splitOn filterSeparator text.toList) ∧
        (∃ type operator, Means field value.toList type operator) ∧
        ∀ type operator, Means field value.toList type operator →
          Filter.read text = ⟨nonEmpty? field.toList, some type, some operator,
            some (readOperand (some operator) value.toList), none⟩ ∧
          Filter.read text = Filter.read (explicitText field type operator value) ∧
            compile [Filter.read text] =
              compile [Filter.read (explicitText field type operator value)] := by
  obtain ⟨field, value, short⟩ := exists_isShort count
  rw [← String.toList_ofList (l := field), ← String.toList_ofList (l := value)] at short
  refine ⟨String.ofList field, String.ofList value, short, ⟨_, _, means_iff.mpr rfl⟩, ?_⟩
  intro type operator means
  have same := short.read_eq means
  have full := read_explicitText type operator (not_mem_of_mem_splitOn short.field_mem)
    (not_mem_of_mem_splitOn short.value_mem)
  exact ⟨same.trans full, same, congrArg (fun filter => compile [filter]) same⟩

/-- Tags with a comma between them are a list of tags, one of which is asked for. -/
theorem short_tags_mean_list :
    Filter.read "tags|a,b" =
        ⟨some "tags", some .array, some .anyOf, some (.single "a,b"), none⟩ ∧
      Filter.read "tags|a,b" = Filter.read "tags|array|any|a,b" ∧
      compile [Filter.read "tags|a,b"] =
        .ok [.select (.field "tags" (.among [.text "a", .text "b"]))] := by
  obtain ⟨field, value, short, -, same⟩ := short_form_means_full_form "tags|a,b" (.inl (by decide))
  have parts : IsShort "tags".toList "a,b".toList (splitOn filterSeparator "tags|a,b".toList) :=
    .two
  obtain ⟨first, last⟩ := short.unique parts
  obtain rfl := String.toList_injective first
  obtain rfl := String.toList_injective last
  obtain ⟨filter, read, compiled⟩ := same .array .anyOf (.list (by decide))
  exact ⟨filter, read, compiled.trans rfl⟩

end

end QueryPipeline
