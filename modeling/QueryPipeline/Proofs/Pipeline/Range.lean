import QueryPipeline.Pipeline.Stage

/-!
# Windows that an engine takes

An engine refuses to leave out a negative number of documents and to go on with less than one. A
stage is in range if it asks for neither, as it is sent.
-/

namespace QueryPipeline.Pipeline

open Document Number

/-- A stage that leaves out no negative number of documents and goes on with at least one. -/
def Stage.InRange (stage : Stage) : Prop :=
  (∀ count, ("$skip", Value.int count) ∈ stage.members → 0 ≤ count) ∧
    ∀ count, ("$limit", Value.int count) ∈ stage.members → 1 ≤ count

namespace Stage

/-- A stage that is neither a skip nor a limit is in range. -/
theorem inRange_of_operator {stage : Stage} {operator : String} {argument : Value}
    (shape : stage.members = [(operator, argument)]) (skip : operator ≠ "$skip")
    (limit : operator ≠ "$limit") : stage.InRange := by
  rw [InRange, shape]
  constructor
  · intro count mem
    exact absurd (congrArg Prod.fst (List.mem_singleton.mp mem)).symm skip
  · intro count mem
    exact absurd (congrArg Prod.fst (List.mem_singleton.mp mem)).symm limit

/-- A selection is in range. -/
theorem inRange_select (condition : Condition) : (select condition).InRange :=
  inRange_of_operator rfl (by decide) (by decide)

/-- A sort is in range. -/
theorem inRange_sort (field : String) (direction : Direction) : (sort field direction).InRange :=
  inRange_of_operator rfl (by decide) (by decide)

/-- A count is in range. -/
theorem inRange_count (field : String) : (count field).InRange :=
  inRange_of_operator rfl (by decide) (by decide)

/-- A skip is in range where it is not negative. -/
theorem inRange_skip_iff {number : Int} : (skip number).InRange ↔ 0 ≤ number := by
  simp [InRange, members]

/-- A limit is in range where it is positive. -/
theorem inRange_limit_iff {number : Int} : (limit number).InRange ↔ 1 ≤ number := by
  simp [InRange, members]

end Stage

/-- A skip can be written where its number can. -/
theorem canBeWritten_skip (number : Int) : canBeWritten [.skip number] = isWritable number := by
  simp [canBeWritten, stageValues, allWritable, Stage.members, Value.isWritable, membersWritable]

/-- A limit can be written where its number can. -/
theorem canBeWritten_limit (number : Int) : canBeWritten [.limit number] = isWritable number := by
  simp [canBeWritten, stageValues, allWritable, Stage.members, Value.isWritable, membersWritable]

/-- A sort can be written. -/
theorem canBeWritten_sort (field : String) (direction : Direction) :
    canBeWritten [.sort field direction] = true := by
  have number : isWritable direction.toInt = true := by
    cases direction <;> decide +kernel
  simp [canBeWritten, stageValues, allWritable, Stage.members, single, Value.isWritable,
    membersWritable, number]

/-- A pipeline can be written where each of its stages can. -/
theorem canBeWritten_iff {pipeline : List Stage} :
    canBeWritten pipeline = true ↔ ∀ stage ∈ pipeline, canBeWritten [stage] = true := by
  induction pipeline with
  | nil => exact iff_of_true rfl (List.forall_mem_nil _)
  | cons stage rest ih =>
    rw [List.forall_mem_cons, ← ih]
    simp [canBeWritten, stageValues, allWritable]

/-- A pipeline cannot be written where some stage cannot. -/
theorem canBeWritten_eq_false_iff {pipeline : List Stage} :
    canBeWritten pipeline = false ↔ ∃ stage ∈ pipeline, canBeWritten [stage] = false := by
  rw [← Bool.not_eq_true, canBeWritten_iff]
  simp

end QueryPipeline.Pipeline
