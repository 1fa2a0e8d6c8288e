import QueryPipeline.Pipeline.Condition

/-!
# Readings of queries

What an engine makes of a query is its own matter. A reading says which rows satisfy which queries,
and asks only what the operators are documented to do: that a conjunction holds where its clauses
do, that comparisons with a point in time compare instants, and that an operator and its opposite
never agree on a field. Queries are read as they are sent.
-/

namespace QueryPipeline.Pipeline

open Document Time

/-- The comparisons of a field with a point in time. -/
inductive Comparison
  /-- Before the operand. -/
  | below
  /-- Before the operand or at it. -/
  | atMost
  /-- After the operand. -/
  | above
  /-- After the operand or at it. -/
  | atLeast
  deriving DecidableEq, Repr

/-- The operator of a comparison. -/
def Comparison.operator : Comparison → String
  | below => "$lt"
  | atMost => "$lte"
  | above => "$gt"
  | atLeast => "$gte"

/-- Whether an instant compares with that of the operand. -/
def Comparison.holds : Comparison → Int → Int → Bool
  | below, instant, operand => instant < operand
  | atMost, instant, operand => instant ≤ operand
  | above, instant, operand => operand < instant
  | atLeast, instant, operand => operand ≤ instant

/-- Operators on a field, each with its opposite. -/
def opposites : List (String × String) := [("$regex", "$not"), ("$eq", "$ne"), ("$in", "$nin")]

/-- A name that a field can have; other names are those of operators. -/
def IsFieldName (name : String) : Prop := name.toList.head? ≠ some '$'

/-- A reading of queries. -/
structure QueryReading (Row : Type) where
  /-- Whether a row satisfies a query. -/
  satisfies : Value → Row → Bool
  /-- The point in time that a field of a row holds, if it holds one. -/
  moment? : String → Row → Option Timestamp
  /-- A conjunction is satisfied where all its clauses are. -/
  satisfies_and (clauses : List Value) (row : Row) :
    satisfies (single "$and" (.array clauses)) row = clauses.all (satisfies · row)
  /-- Points in time are compared by their instants. -/
  satisfies_comparison {name : String} {row : Row} {moment : Timestamp}
    (holds : moment? name row = some moment) (comparison : Comparison) (operand : Timestamp) :
    satisfies (single name (single comparison.operator (.date operand))) row =
      comparison.holds moment.instant operand.instant
  /-- A field satisfies an operator where it does not satisfy the opposite. -/
  satisfies_opposite {name : String} (named : IsFieldName name) {pair : String × String}
    (opposite : pair ∈ opposites) (operand : Value) (row : Row) :
    satisfies (single name (single pair.2 operand)) row =
      !satisfies (single name (single pair.1 operand)) row

namespace QueryReading

section

variable {Row : Type} (reading : QueryReading Row) {name : String} {row : Row} {moment : Timestamp}
  (holds : reading.moment? name row = some moment)

include holds

/-- A field is below a point in time where its instant is. -/
theorem satisfies_below (operand : Timestamp) :
    reading.satisfies (Condition.field name (.below (.date operand))).toValue row = true ↔
      moment.instant < operand.instant := by
  have compared := reading.satisfies_comparison holds .below operand
  exact (Bool.eq_iff_iff.mp compared).trans decide_eq_true_iff

/-- A field is above a point in time where its instant is. -/
theorem satisfies_above (operand : Timestamp) :
    reading.satisfies (Condition.field name (.above (.date operand))).toValue row = true ↔
      operand.instant < moment.instant := by
  have compared := reading.satisfies_comparison holds .above operand
  exact (Bool.eq_iff_iff.mp compared).trans decide_eq_true_iff

/-- A field is between two points in time where its instant is, the ends included. -/
theorem satisfies_between (low high : Timestamp) :
    reading.satisfies (Condition.between name (.date low) (.date high)).toValue row = true ↔
      low.instant ≤ moment.instant ∧ moment.instant ≤ high.instant := by
  have front : reading.satisfies (single name (single "$gte" (.date low))) row = _ :=
    reading.satisfies_comparison holds .atLeast low
  have back : reading.satisfies (single name (single "$lte" (.date high))) row = _ :=
    reading.satisfies_comparison holds .atMost high
  rw [Condition.toValue, reading.satisfies_and, List.all_cons, List.all_cons, List.all_nil, front,
    back]
  simp [Comparison.holds]

end

end QueryReading

section

-- How an expression matches a value is left open.
variable (matching : Regex → Value → Bool)

/-- Whether two scalars are the same. -/
def sameScalar : Value → Value → Bool
  | .text first, .text second => first == second
  | .float first, .float second => first == second
  | .objectId first, .objectId second => first == second
  | _, _ => false

/-- Whether a value, if there is one, passes an operator that has an opposite. -/
def passesPlainly (held : Option Value) : String → Value → Bool
  | "$regex", .regex expression => held.any (matching expression)
  | "$eq", operand => held.any (sameScalar operand)
  | "$in", .array operands => held.any fun value => operands.any (sameScalar value)
  | _, _ => false

/-- Whether a value, if there is one, passes an operator. -/
def passes (held : Option Value) (operator : String) (operand : Value) : Bool :=
  match [Comparison.below, .atMost, .above, .atLeast].find? (·.operator == operator), held,
    operand with
  | some comparison, some (.date moment), .date bound =>
    comparison.holds moment.instant bound.instant
  | _, _, _ =>
    match opposites.find? (·.2 == operator) with
    | some pair => !passesPlainly matching held pair.1 operand
    | none => passesPlainly matching held operator operand

mutual

/-- Whether the members of a row satisfy a query. -/
def satisfiesPlainly (row : Members) : Value → Bool
  | .object [("$and", .array clauses)] => allSatisfied row clauses
  | .object [(name, .object [(operator, operand)])] =>
    passes matching (row.lookup name) operator operand
  | _ => false

/-- Whether the members of a row satisfy all clauses of a query. -/
def allSatisfied (row : Members) : List Value → Bool
  | [] => true
  | clause :: rest => satisfiesPlainly row clause && allSatisfied row rest

end

/-- The clauses of a query are satisfied one by one. -/
theorem allSatisfied_eq (row : Members) (clauses : List Value) :
    allSatisfied matching row clauses = clauses.all (satisfiesPlainly matching row) := by
  induction clauses with
  | nil => rfl
  | cons clause rest ih => rw [allSatisfied, ih, List.all_cons]

/-- A query on one field asks for its value. -/
theorem satisfiesPlainly_single (row : Members) (name operator : String) (operand : Value) :
    satisfiesPlainly matching row (single name (single operator operand)) =
      passes matching (row.lookup name) operator operand := by
  rw [single, single, satisfiesPlainly]

/-- There is such a reading of rows for every way to match an expression. -/
def QueryReading.plain : QueryReading Members where
  satisfies query row := satisfiesPlainly matching row query
  moment? name row :=
    match row.lookup name with
    | some (.date moment) => some moment
    | _ => none
  satisfies_and clauses row := allSatisfied_eq matching row clauses
  satisfies_comparison {name row moment} holds comparison operand := by
    have held : row.lookup name = some (.date moment) := by
      split at holds
      · next found =>
        cases holds
        exact found
      · cases holds
    rw [satisfiesPlainly_single, held]
    cases comparison <;> rfl
  satisfies_opposite {name} named {pair} opposite operand row := by
    rw [satisfiesPlainly_single, satisfiesPlainly_single]
    simp only [opposites, List.mem_cons, List.not_mem_nil, or_false] at opposite
    obtain rfl | rfl | rfl := opposite <;> rfl

end

end QueryPipeline.Pipeline
