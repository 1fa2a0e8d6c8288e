import QueryPipeline.Filter.Parser
import QueryPipeline.Proofs.Text.Split

/-!
# The full form of a filter

A filter none of whose parts is missing has a full form, as long as no part holds the mark that ends
it. The full form is read as that filter, whether or not its type has its operator. The texts that
are such forms are told by their tokens, and each of them is the full form of what is read of it.
-/

namespace QueryPipeline

open Text

/-- A type is found by no token but its own. -/
theorem FilterType.token_of_ofToken? {token : String} {type : FilterType}
    (found : ofToken? token = some type) : type.token = token := by
  have same : (type.token == token) = true :=
    List.find?_some (p := fun type : FilterType => type.token == token) found
  exact eq_of_beq same

/-- An operator is found by no token but its own. -/
theorem Operator.token_of_ofToken? {token : String} {operator : Operator}
    (found : ofToken? token = some operator) : operator.token = token := by
  have same : (operator.token == token) = true :=
    List.find?_some (p := fun operator : Operator => operator.token == token) found
  exact eq_of_beq same

/-- The token of a type does not hold the mark that ends it. -/
theorem FilterType.separator_not_mem (type : FilterType) :
    filterSeparator ∉ type.token.toList := by
  cases type <;> decide

/-- The token of an operator does not hold the mark that ends it. -/
theorem Operator.separator_not_mem (operator : Operator) :
    filterSeparator ∉ operator.token.toList := by
  cases operator <;> decide

/-- The tokens of a type and of an operator make a filter of that type and that operator. -/
theorem fullFilter_token (field value : List Char) (type : FilterType) (operator : Operator)
    (share : Option String) :
    fullFilter field type.token.toList operator.token.toList value share =
      ⟨nonEmpty? field, some type, some operator, some (readOperand (some operator) value),
        share⟩ := by
  rw [fullFilter, String.ofList_toList, String.ofList_toList, FilterType.ofToken?_token,
    Operator.ofToken?_token]

/-- The mark between the two ends of a range. -/
def rangeMark : Char := '~'

section

variable {value low high : List Char}

/-- The operand of a range that is cut is between its two ends. -/
theorem readOperand_of_cut (cut : cut? rangeMark value = some (low, high)) :
    readOperand (some .range) value = .between (String.ofList low) (String.ofList high) := by
  rw [readOperand]
  exact cut

/-- The operand of a range that is not cut, or of another operator, is one text. -/
theorem readOperand_of_uncut {operator : Operator}
    (uncut : operator = .range → cut? rangeMark value = none) :
    readOperand (some operator) value = .single (String.ofList value) := by
  rw [readOperand]
  rintro low high same cut
  rw [← rangeMark, uncut (Option.some.inj same)] at cut
  cases cut

end

namespace Operand

/-- An operand as it is written. -/
def token : Operand → List Char
  | single text => text.toList
  | between low high => low.toList ++ rangeMark :: high.toList

/-- Whether an operand is written as one token and read back for an operator: a range is cut at its
first mark, and nothing is cut for another operator. -/
def IsPlain (operator : Operator) : Operand → Prop
  | single text => filterSeparator ∉ text.toList ∧ (operator = .range → rangeMark ∉ text.toList)
  | between low high => operator = .range ∧ filterSeparator ∉ low.toList ∧
      rangeMark ∉ low.toList ∧ filterSeparator ∉ high.toList

variable {operator : Operator} {operand : Operand}

/-- A plain operand is one token. -/
theorem IsPlain.not_mem (plain : operand.IsPlain operator) : filterSeparator ∉ operand.token := by
  cases operand with
  | single text => exact plain.1
  | between low high =>
    obtain ⟨-, first, -, second⟩ := plain
    rw [token, List.mem_append, List.mem_cons]
    rintro (inside | mark | inside)
    · exact first inside
    · exact absurd mark (by decide)
    · exact second inside

/-- A plain operand is read back. -/
theorem IsPlain.read_token (plain : operand.IsPlain operator) :
    readOperand (some operator) operand.token = operand := by
  cases operand with
  | single text =>
    rw [token, readOperand_of_uncut fun range => cut?_of_not_mem (plain.2 range),
      String.ofList_toList]
  | between low high =>
    obtain ⟨rfl, -, absent, -⟩ := plain
    rw [token, readOperand_of_cut (cut?_append_cons absent _), String.ofList_toList,
      String.ofList_toList]

/-- An operand that is read of a token is plain and written as that token. -/
theorem token_readOperand (operator : Operator) {value : List Char}
    (one : filterSeparator ∉ value) :
    (readOperand (some operator) value).IsPlain operator ∧
      (readOperand (some operator) value).token = value := by
  by_cases uncut : operator = .range → cut? rangeMark value = none
  · rw [readOperand_of_uncut uncut, token, IsPlain, String.toList_ofList]
    exact ⟨⟨one, fun range => not_mem_of_cut?_eq_none (uncut range)⟩, rfl⟩
  · obtain ⟨rfl, some⟩ := Classical.not_imp.mp uncut
    obtain ⟨⟨low, high⟩, cut⟩ := Option.ne_none_iff_exists'.mp some
    obtain ⟨rfl, absent⟩ := cut?_eq_some cut
    rw [List.mem_append, List.mem_cons, not_or, not_or] at one
    rw [readOperand_of_cut cut, token, IsPlain, String.toList_ofList, String.toList_ofList]
    exact ⟨⟨rfl, one.1, absent, one.2.2⟩, rfl⟩

end Operand

/-- The tokens of a full form. -/
def fullTokens (field : String) (type : FilterType) (operator : Operator) (operand : Operand)
    (share : Option String) : List (List Char) :=
  [field.toList, type.token.toList, operator.token.toList, operand.token] ++
    (share.map String.toList).toList

/-- The text of the full form of a filter, if no part but the share is missing. -/
def Filter.fullText? : Filter → Option String
  | ⟨some field, some type, some operator, some operand, share⟩ =>
    some (String.ofList (joinWith filterSeparator (fullTokens field type operator operand share)))
  | _ => none

/-- The parts of a full form, each of which is one token and, if it can be missing, not empty. -/
structure FullForm where
  /-- The field. -/
  field : String
  /-- The type of the comparison. -/
  type : FilterType
  /-- The comparison. -/
  operator : Operator
  /-- What the field is compared with. -/
  operand : Operand
  /-- The percentage of the documents to go on with, if there is one. -/
  share : Option String
  field_nonempty : field ≠ ""
  field_one : filterSeparator ∉ field.toList
  operand_plain : operand.IsPlain operator
  share_nonempty : share ≠ some ""
  share_one : ∀ text ∈ share, filterSeparator ∉ text.toList

namespace FullForm

/-- The filter that has a full form. -/
def filter (form : FullForm) : Filter :=
  ⟨some form.field, some form.type, some form.operator, some form.operand, form.share⟩

/-- The tokens of a full form. -/
def tokens (form : FullForm) : List (List Char) :=
  fullTokens form.field form.type form.operator form.operand form.share

/-- The text of a full form. -/
def text (form : FullForm) : String := String.ofList (joinWith filterSeparator form.tokens)

variable (form : FullForm)

/-- The text of the full form of a filter is that of its parts. -/
theorem fullText?_filter : form.filter.fullText? = some form.text := rfl

/-- Each part of a full form is one token. -/
theorem not_mem_of_mem_tokens : ∀ token ∈ form.tokens, filterSeparator ∉ token := by
  have share : ∀ token ∈ (form.share.map String.toList).toList, filterSeparator ∉ token := by
    intro token mem
    obtain ⟨text, given, rfl⟩ := Option.map_eq_some_iff.mp (Option.mem_toList.mp mem)
    exact form.share_one text given
  rw [tokens, fullTokens, List.forall_mem_append]
  refine ⟨?_, share⟩
  rw [List.forall_mem_cons, List.forall_mem_cons, List.forall_mem_cons, List.forall_mem_singleton]
  exact ⟨form.field_one, form.type.separator_not_mem, form.operator.separator_not_mem,
    form.operand_plain.not_mem⟩

/-- A full form has a token. -/
theorem tokens_ne_nil : form.tokens ≠ [] := List.cons_ne_nil _ _

/-- A text that is not empty is left as it is. -/
theorem nonEmpty?_toList {text : String} (nonempty : text ≠ "") :
    nonEmpty? text.toList = some text := by
  rw [nonEmpty?, if_neg, String.ofList_toList]
  simpa using nonempty

/-- The tokens of a full form make its filter, whatever tokens follow a share. -/
theorem ofTokens_append {more : List (List Char)} (last : form.share = none → more = []) :
    Filter.ofTokens (form.tokens ++ more) = form.filter := by
  have full : ∀ share, fullFilter form.field.toList form.type.token.toList
      form.operator.token.toList form.operand.token share =
        ⟨some form.field, some form.type, some form.operator, some form.operand, share⟩ := by
    intro share
    rw [fullFilter_token, form.operand_plain.read_token, nonEmpty?_toList form.field_nonempty]
  rw [tokens, fullTokens, filter]
  cases share : form.share with
  | none =>
    rw [last share]
    exact full none
  | some text =>
    have nonempty : text ≠ "" := fun empty => form.share_nonempty (empty ▸ share)
    have kept := full (nonEmpty? text.toList)
    rw [nonEmpty?_toList nonempty] at kept
    change fullFilter _ _ _ _ (nonEmpty? text.toList) = _
    rw [nonEmpty?_toList nonempty, kept]

/-- The text of a full form is read as its filter. -/
theorem read_text : Filter.read form.text = form.filter := by
  have made := form.ofTokens_append fun _ => rfl
  rw [List.append_nil] at made
  rw [Filter.read, text, String.toList_ofList,
    splitOn_joinWith form.tokens_ne_nil form.not_mem_of_mem_tokens, made]

/-- Behind a share, any further tokens are left out. -/
theorem read_text_append (shared : form.share.isSome) (more : String) :
    Filter.read (form.text ++ "|" ++ more) = form.filter := by
  have text : (form.text ++ "|" ++ more).toList =
      joinWith filterSeparator form.tokens ++ filterSeparator :: more.toList := by
    simp [FullForm.text, filterSeparator]
  rw [Filter.read, text, splitOn_joinWith_append form.tokens_ne_nil form.not_mem_of_mem_tokens]
  refine form.ofTokens_append fun none => ?_
  rw [none] at shared
  cases shared

end FullForm

/-- Whether tokens begin a full form: a field that is not empty, and a type and an operator that
there are. -/
def beginsFull (field type operator : List Char) : Bool :=
  !field.isEmpty && (FilterType.ofToken? (String.ofList type)).isSome &&
    (Operator.ofToken? (String.ofList operator)).isSome

/-- Whether tokens are those of a full form: four of them, or five of which the last is not
empty. -/
def isFull : List (List Char) → Bool
  | [field, type, operator, _] => beginsFull field type operator
  | [field, type, operator, _, share] => beginsFull field type operator && !share.isEmpty
  | _ => false

/-- The tokens of a full form begin it. -/
theorem FullForm.beginsFull (form : FullForm) : QueryPipeline.beginsFull form.field.toList
    form.type.token.toList form.operator.token.toList = true := by
  have field : form.field.toList ≠ [] := by simpa using form.field_nonempty
  rw [QueryPipeline.beginsFull, String.ofList_toList, String.ofList_toList,
    FilterType.ofToken?_token, Operator.ofToken?_token, List.isEmpty_eq_false_iff.mpr field]
  rfl

/-- The tokens of a full form are those of one. -/
theorem FullForm.isFull_tokens (form : FullForm) : isFull form.tokens = true := by
  rw [tokens, fullTokens]
  cases share : form.share with
  | none => exact form.beginsFull
  | some text =>
    have nonempty : text.toList ≠ [] := by
      simpa using fun empty : text = "" => form.share_nonempty (empty ▸ share)
    change (QueryPipeline.beginsFull _ _ _ && !text.toList.isEmpty) = true
    rw [form.beginsFull, List.isEmpty_eq_false_iff.mpr nonempty]
    rfl

/-- Tokens that begin a full form and do not hold the separator are those of one. -/
theorem exists_fullTokens {field type operator value : List Char}
    (begins : beginsFull field type operator = true) (fieldOne : filterSeparator ∉ field)
    (valueOne : filterSeparator ∉ value) (share : Option String) (shareNonempty : share ≠ some "")
    (shareOne : ∀ text ∈ share, filterSeparator ∉ text.toList) :
    ∃ form : FullForm, form.tokens =
      [field, type, operator, value] ++ (share.map String.toList).toList := by
  simp only [beginsFull, Bool.and_eq_true, Bool.not_eq_true', List.isEmpty_eq_false_iff,
    Option.isSome_iff_exists] at begins
  obtain ⟨⟨nonempty, typed, foundType⟩, compared, foundOperator⟩ := begins
  obtain ⟨plain, written⟩ := Operand.token_readOperand compared valueOne
  have tokens : fullTokens (String.ofList field) typed compared
      (readOperand (some compared) value) share =
        [field, type, operator, value] ++ (share.map String.toList).toList := by
    rw [fullTokens, FilterType.token_of_ofToken? foundType,
      Operator.token_of_ofToken? foundOperator, written, String.toList_ofList,
      String.toList_ofList, String.toList_ofList]
  exact ⟨⟨String.ofList field, typed, compared, readOperand (some compared) value, share,
    by simpa using nonempty, by rwa [String.toList_ofList], plain, shareNonempty, shareOne⟩, tokens⟩

/-- Tokens that do not hold the separator and are those of a full form are given by one. -/
theorem exists_tokens_eq {tokens : List (List Char)} (full : isFull tokens = true)
    (one : ∀ token ∈ tokens, filterSeparator ∉ token) : ∃ form : FullForm, form.tokens = tokens := by
  rw [isFull.eq_def] at full
  split at full
  · next field type operator value =>
    exact exists_fullTokens full (one field (by simp)) (one value (by simp)) none (by simp)
      (by simp)
  · next field type operator value share =>
    rw [Bool.and_eq_true, Bool.not_eq_true', List.isEmpty_eq_false_iff] at full
    have five : ((some (String.ofList share)).map String.toList).toList = [share] := by simp
    have given := exists_fullTokens full.1 (one field (by simp)) (one value (by simp))
      (some (String.ofList share)) (by simpa using full.2) (by simpa using one share (by simp))
    rwa [five] at given
  · cases full

/-- The texts of full forms are those whose tokens are those of one. -/
theorem exists_fullForm_iff (text : String) :
    (∃ form : FullForm, form.text = text) ↔
      isFull (splitOn filterSeparator text.toList) = true := by
  constructor
  · rintro ⟨form, rfl⟩
    rw [FullForm.text, String.toList_ofList,
      splitOn_joinWith form.tokens_ne_nil form.not_mem_of_mem_tokens]
    exact form.isFull_tokens
  · intro full
    obtain ⟨form, same⟩ := exists_tokens_eq full fun _ => not_mem_of_mem_splitOn
    exact ⟨form, by rw [FullForm.text, same, joinWith_splitOn, String.ofList_toList]⟩

/-- The full form of a filter is read as the filter, and nothing that follows a share changes that.
A text whose tokens are those of a full form is the full form of what is read of it. -/
theorem full_forms_round_trip :
    (∀ form : FullForm, Filter.read form.text = form.filter ∧
      (form.share.isSome → ∀ more, Filter.read (form.text ++ "|" ++ more) = form.filter)) ∧
    ∀ text : String, isFull (splitOn filterSeparator text.toList) = true →
      (Filter.read text).fullText? = some text := by
  refine ⟨fun form => ⟨form.read_text, form.read_text_append⟩, fun text full => ?_⟩
  obtain ⟨form, rfl⟩ := (exists_fullForm_iff text).mpr full
  rw [form.read_text, form.fullText?_filter]

/-- A tenth of the documents from the first days of a year, as the parts of a full form. -/
def firstDays : FullForm where
  field := "~created at"
  type := .date
  operator := .range
  operand := .between "2024-01-01" "2024-01-07~"
  share := some "10"
  field_nonempty := by decide
  field_one := by decide
  operand_plain := ⟨rfl, by decide, by decide, by decide⟩
  share_nonempty := by decide
  share_one := by simp [filterSeparator]

/-- The full form of the first days is read as their filter, also with two more tokens, and a full
form whose type does not have its operator is that of what is read of it. -/
theorem first_days_round_trip :
    Filter.read "~created at|date|range|2024-01-01~2024-01-07~|10" = firstDays.filter ∧
      Filter.read "~created at|date|range|2024-01-01~2024-01-07~|10||x" = firstDays.filter ∧
      (Filter.read "price|array|lt|a~b").fullText? = some "price|array|lt|a~b" := by
  have text : firstDays.text = "~created at|date|range|2024-01-01~2024-01-07~|10" := by
    decide +kernel
  obtain ⟨forms, texts⟩ := full_forms_round_trip
  have read := forms firstDays
  rw [text] at read
  exact ⟨read.1, read.2 rfl "|x", texts _ (by decide +kernel)⟩

end QueryPipeline
