import QueryPipeline.Proofs.Pipeline.Window

/-!
# The rows at the two ends of a list

Stages can keep some of the rows at the front of a list, or some of those at its back. Where they
keep none, a condition that nothing satisfies may stand in for a limit, so a reading has to let no
row satisfy it. What the stages do to lists of another length is left open.
-/

namespace QueryPipeline.Pipeline

open Document

/-- A reading under which, besides, no row satisfies the condition that never holds. -/
structure CutReading (Row : Type) extends WindowReading Row where
  /-- The condition that never holds is not satisfied. -/
  satisfies_never (row : Row) : satisfies Condition.never.toValue row = false

/-- Stages keep a number of rows at the front of every list of a given length. -/
structure KeepsFirst (stages : List Stage) (total count : Nat) : Prop where
  /-- There are as many rows. -/
  count_le : count ≤ total
  /-- The first rows are what the stages keep. -/
  run_eq {Row : Type} (reading : CutReading Row) {rows : List Row} (all : rows.length = total) :
    reading.run stages rows = rows.take count

/-- Stages keep a number of rows at the back of every list of a given length. -/
structure KeepsLast (stages : List Stage) (total count : Nat) : Prop where
  /-- There are as many rows. -/
  count_le : count ≤ total
  /-- The last rows are what the stages keep. -/
  run_eq {Row : Type} (reading : CutReading Row) {rows : List Row} (all : rows.length = total) :
    reading.run stages rows = rows.drop (total - count)

section

variable {total count : Nat}

/-- No row passes the condition that never holds. -/
theorem CutReading.run_never {Row : Type} (reading : CutReading Row) (rows : List Row) :
    reading.run [.select .never] rows = [] := by
  have none : rows.filter (reading.satisfies Condition.never.toValue) = [] :=
    List.filter_eq_nil_iff.mpr fun row _ => by simp [reading.satisfies_never row]
  exact (reading.apply_match Condition.never.toValue rows).trans none

/-- The condition that never holds keeps no row at the front. -/
theorem keepsFirst_never (total : Nat) : KeepsFirst [.select .never] total 0 :=
  ⟨Nat.zero_le total, fun reading rows _ => (reading.run_never rows).trans List.take_zero.symm⟩

/-- The condition that never holds keeps no row at the back. -/
theorem keepsLast_never (total : Nat) : KeepsLast [.select .never] total 0 where
  count_le := Nat.zero_le total
  run_eq reading rows all := by
    rw [reading.run_never, Nat.sub_zero, List.drop_of_length_le (Nat.le_of_eq all)]

/-- A limit keeps rows at the front. -/
theorem keepsFirst_limit (within : count ≤ total) : KeepsFirst [.limit count] total count :=
  ⟨within, fun reading rows _ => reading.apply_limit_eq count rows⟩

/-- A skip of the other rows and a limit keep rows at the back. -/
theorem keepsLast_skip_limit (within : count ≤ total) :
    KeepsLast [.skip (total - count : Nat), .limit count] total count where
  count_le := within
  run_eq reading rows all := by
    have cut : ∀ stage ∈ [Stage.skip (total - count : Nat), .limit count], stage.IsWindow := by
      simp [Stage.IsWindow]
    have left : (rows.drop (total - count)).length ≤ count := by
      rw [List.length_drop, all]
      omega
    rw [reading.run_eq_rows cut, Window.ofStages_skip_limit, Int.toNat_natCast, Int.toNat_natCast]
    exact List.take_of_length_le left

/-- Where some stages keep rows at the front and others the rest at the back, each row is kept by
one of the two. -/
theorem KeepsFirst.append_eq {front back : List Stage} (first : KeepsFirst front total count)
    (last : KeepsLast back total (total - count)) {Row : Type} (reading : CutReading Row)
    {rows : List Row} (all : rows.length = total) :
    reading.run front rows ++ reading.run back rows = rows := by
  rw [first.run_eq reading all, last.run_eq reading all, Nat.sub_sub_self first.count_le,
    List.take_append_drop]

end

/-- Whether a document satisfies a query, where a truth value as an expression is told by itself. -/
def satisfiesLiterally (satisfies : Value → Value → Bool) : Value → Value → Bool
  | .object [("$expr", .bool holds)], _ => holds
  | query, row => satisfies query row

/-- There is such a reading of documents for every way to satisfy other queries. -/
def CutReading.plain (satisfies : Value → Value → Bool) : CutReading Value where
  toWindowReading := .plain (satisfiesLiterally satisfies)
  satisfies_never _ := rfl

end QueryPipeline.Pipeline
