import QueryPipeline.Pipeline.Condition

/-!
# Stages of a pipeline

A pipeline is a list of stages that an engine runs in order. The stages of the library's own making
are kept by their meaning; those of a caller are kept as the objects they are.
-/

namespace QueryPipeline.Pipeline

open Document

/-- The direction of a sort. -/
inductive Direction
  /-- The least value first. -/
  | ascending
  /-- The greatest value first. -/
  | descending
  deriving DecidableEq, Repr

/-- A direction as the number that stands for it. -/
def Direction.toInt : Direction → Int
  | ascending => 1
  | descending => -1

/-- A stage. -/
inductive Stage
  /-- Go on with the documents that satisfy a condition. -/
  | select (condition : Condition)
  /-- Leave out the first documents. -/
  | skip (count : Int)
  /-- Go on with the first documents only. -/
  | limit (count : Int)
  /-- Sort by a field. -/
  | sort (field : String) (direction : Direction)
  /-- Go on with the number of documents, under a field. -/
  | count (field : String)
  /-- Add a field with a text to every document. -/
  | tag (field : String) (text : String)
  /-- Add what another collection yields. -/
  | union (collection : String) (pipeline : List Stage)
  /-- Whatever a caller put in. -/
  | custom (members : Members)

mutual

/-- The members of the object that a stage is sent as. -/
def Stage.members : Stage → Members
  | .select condition => [("$match", condition.toValue)]
  | .skip count => [("$skip", .int count)]
  | .limit count => [("$limit", .int count)]
  | .sort field direction => [("$sort", single field (.int direction.toInt))]
  | .count field => [("$count", .text field)]
  | .tag field text => [("$addFields", single field (.text text))]
  | .union collection pipeline =>
    [("$unionWith",
      .object [("coll", .text collection), ("pipeline", .array (stageValues pipeline))])]
  | .custom members => members

/-- The objects that stages are sent as. -/
def stageValues : List Stage → List Value
  | [] => []
  | stage :: rest => .object stage.members :: stageValues rest

end

/-- Whether some stage has the given operator. -/
def hasStage (operator : String) (pipeline : List Stage) : Bool :=
  pipeline.any fun stage => stage.members.has operator

/-- Whether every whole number in a pipeline can be written. -/
def canBeWritten (pipeline : List Stage) : Bool := allWritable (stageValues pipeline)

end QueryPipeline.Pipeline
