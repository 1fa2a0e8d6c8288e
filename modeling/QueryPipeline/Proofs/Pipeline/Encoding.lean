import QueryPipeline.Engine.Basic
import QueryPipeline.Proofs.Document.Encoding

/-!
# The whole numbers in a pipeline

What a caller puts into a pipeline is the caller's own concern. Every other whole number in it is put
in by the library: to leave documents out, to go on with some of them, to sort, or to look an
identifier up. A stage can be encoded if these numbers can be.
-/

namespace QueryPipeline.Pipeline

open Document Number

mutual

/-- The whole numbers that the library puts into a stage; a stage of a caller has none of them. -/
def Stage.ownIntegers : Stage → List Int
  | .union _ pipeline => pipelineIntegers pipeline
  | .custom _ => []
  | stage => memberIntegers stage.members

/-- The whole numbers that the library puts into a pipeline. -/
def pipelineIntegers : List Stage → List Int
  | [] => []
  | stage :: rest => stage.ownIntegers ++ pipelineIntegers rest

end

/-- A stage whose whole numbers of the library's making can be encoded. -/
def Stage.IsEncodable (stage : Stage) : Prop := ∀ n ∈ stage.ownIntegers, Document.IsEncodable n

instance : DecidablePred Stage.IsEncodable := fun stage =>
  inferInstanceAs (Decidable (∀ n ∈ stage.ownIntegers, Document.IsEncodable n))

/-- Stages of a caller, as the objects that they are. -/
def AreGiven (stages : List Stage) : Prop := ∀ stage ∈ stages, ∃ members, stage = .custom members

/-- The stages of a caller have no number of the library's making. -/
theorem AreGiven.isEncodable {stages : List Stage} (given : AreGiven stages) :
    ∀ stage ∈ stages, stage.IsEncodable := by
  intro stage mem
  obtain ⟨members, rfl⟩ := given stage mem
  exact List.forall_mem_nil _

namespace Stage

/-- A condition without whole numbers can be encoded. -/
theorem isEncodable_select {condition : Condition} (plain : condition.toValue.integers = []) :
    (select condition).IsEncodable := by
  simp [IsEncodable, ownIntegers, members, memberIntegers, plain]

/-- The look up of an identifier can be encoded where the identifier can be. -/
theorem isEncodable_select_identified_iff {identifier : Identifier} :
    (select (.identified identifier)).IsEncodable ↔ identifier.IsEncodable := by
  obtain ⟨text, number?, key⟩ := identifier
  have keyed : key.toValue.integers = [] := by cases key <;> rfl
  rw [IsEncodable, Identifier.IsEncodable]
  cases number? with
  | none => simp [ownIntegers, members, memberIntegers, Condition.toValue, single, Value.integers,
      identifierClauses, itemIntegers, keyed]
  | some number =>
    cases number <;> simp [ownIntegers, members, memberIntegers, Condition.toValue, single,
      Value.integers, identifierClauses, itemIntegers, keyed, numeralValue]

/-- To leave documents out can be encoded where their number can be. -/
theorem isEncodable_skip_iff {count : Int} :
    (skip count).IsEncodable ↔ Document.IsEncodable count := by
  simp [IsEncodable, ownIntegers, members, memberIntegers, Value.integers]

/-- To go on with some documents can be encoded where their number can be. -/
theorem isEncodable_limit_iff {count : Int} :
    (limit count).IsEncodable ↔ Document.IsEncodable count := by
  simp [IsEncodable, ownIntegers, members, memberIntegers, Value.integers]

/-- A sort can be encoded. -/
theorem isEncodable_sort (field : String) (direction : Direction) :
    (sort field direction).IsEncodable := by
  cases direction <;> simp [IsEncodable, ownIntegers, members, memberIntegers, Value.integers,
    single, Direction.toInt, Document.IsEncodable]

/-- A count can be encoded. -/
theorem isEncodable_count (field : String) : (count field).IsEncodable := by
  simp [IsEncodable, ownIntegers, members, memberIntegers, Value.integers]

/-- A tag can be encoded. -/
theorem isEncodable_tag (field text : String) : (tag field text).IsEncodable := by
  simp [IsEncodable, ownIntegers, members, memberIntegers, Value.integers, single]

/-- What another collection adds can be encoded where each stage for it can be. -/
theorem isEncodable_union_iff {collection : String} {pipeline : List Stage} :
    (union collection pipeline).IsEncodable ↔ ∀ stage ∈ pipeline, stage.IsEncodable := by
  rw [IsEncodable, ownIntegers]
  induction pipeline with
  | nil => simp [pipelineIntegers]
  | cons stage rest ih =>
    rw [pipelineIntegers, List.forall_mem_append, ih, List.forall_mem_cons]
    rfl

end Stage

end QueryPipeline.Pipeline

namespace QueryPipeline

open Pipeline

/-- A call whose whole numbers of the library's making can be encoded. -/
def Call.IsEncodable (call : Call) : Prop := ∀ stage ∈ call.pipeline, stage.IsEncodable

instance : DecidablePred Call.IsEncodable := fun call =>
  inferInstanceAs (Decidable (∀ stage ∈ call.pipeline, stage.IsEncodable))

end QueryPipeline
