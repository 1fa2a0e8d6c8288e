import QueryPipeline.Pipeline.Stage

/-!
# Evaluating pipelines over several collections

An evaluation knows the documents of every collection and how each stage turns rows into rows. All
that is asked of it is what a union is documented to do: to add, behind the rows so far, what its
own stages make of the documents of the collection that it names. Stages are read as they are sent.
-/

namespace QueryPipeline.Pipeline

open Document

/-- An evaluation of stages, one after another, over the documents of collections. -/
structure Evaluation (Row : Type) where
  /-- The documents of a collection. -/
  documents : String → List Row
  /-- The rows that a stage makes of rows. -/
  apply : Members → List Row → List Row
  /-- A union adds what its stages make of the documents of its collection. -/
  apply_union (collection : String) (stages : List Members) (rows : List Row) :
    apply [("$unionWith", .object [("coll", .text collection),
      ("pipeline", .array (stages.map .object))])] rows =
        rows ++ stages.foldl (fun rows members => apply members rows) (documents collection)

namespace Evaluation

variable {Row : Type} (evaluation : Evaluation Row)

/-- The rows that stages make of rows one after another. -/
def run (stages : List Stage) (rows : List Row) : List Row :=
  stages.foldl (fun rows stage => evaluation.apply stage.members rows) rows

/-- The rows that stages make of the documents of a collection. -/
def runOn (collection : String) (stages : List Stage) : List Row :=
  evaluation.run stages (evaluation.documents collection)

/-- Stages in two parts are run one part after the other. -/
theorem run_append (first second : List Stage) (rows : List Row) :
    evaluation.run (first ++ second) rows = evaluation.run second (evaluation.run first rows) :=
  List.foldl_append

/-- The objects that stages are sent as are those of their members. -/
theorem stageValues_eq_map (stages : List Stage) :
    stageValues stages = (stages.map Stage.members).map .object := by
  induction stages with
  | nil => rfl
  | cons stage rest ih => rw [stageValues, ih, List.map_cons, List.map_cons]

/-- A union adds what its stages yield over its collection. -/
theorem apply_union_members (collection : String) (stages : List Stage) (rows : List Row) :
    evaluation.apply (Stage.union collection stages).members rows =
      rows ++ evaluation.runOn collection stages := by
  rw [Stage.members, stageValues_eq_map, evaluation.apply_union, List.foldl_map]
  rfl

/-- Unions one after another add what each yields, in order. -/
theorem run_map_union {α : Type} (collection : α → String) (stages : α → List Stage)
    (sources : List α) (rows : List Row) :
    evaluation.run (sources.map fun source => .union (collection source) (stages source)) rows =
      rows ++
        sources.flatMap fun source => evaluation.runOn (collection source) (stages source) := by
  induction sources generalizing rows with
  | nil => simp [run]
  | cons source rest ih =>
    have first := evaluation.apply_union_members (collection source) (stages source) rows
    rw [List.map_cons, run, List.foldl_cons, first, ← run, ih, List.flatMap_cons, List.append_assoc]

end Evaluation

section

variable {Row : Type} (documents : String → List Row) (plain : Members → List Row → List Row)

mutual

/-- The rows that a stage makes of rows, where stages that are no unions are read as given. -/
def applyNested : Value → List Row → List Row
  | .object [("$unionWith", .object [("coll", .text collection), ("pipeline", .array stages)])],
    rows => rows ++ runNested stages (documents collection)
  | .object members, rows => plain members rows
  | _, rows => rows

/-- The rows that stages make of rows one after another, unions among them. -/
def runNested : List Value → List Row → List Row
  | [], rows => rows
  | stage :: rest, rows => runNested rest (applyNested stage rows)

end

/-- Nested stages are run one after another. -/
theorem runNested_map_object (stages : List Members) (rows : List Row) :
    runNested documents plain (stages.map .object) rows =
      stages.foldl (fun rows members => applyNested documents plain (.object members) rows)
        rows := by
  induction stages generalizing rows with
  | nil => rfl
  | cons members rest ih => rw [List.map_cons, runNested, ih, List.foldl_cons]

/-- There is an evaluation for all documents and every reading of the stages that are no unions. -/
def Evaluation.nested : Evaluation Row where
  documents := documents
  apply members := applyNested documents plain (.object members)
  apply_union collection stages rows := by
    rw [applyNested, runNested_map_object]

end

end QueryPipeline.Pipeline
