import QueryPipeline.Pipeline.Stage

/-!
# Engines

An engine runs pipelines on collections. Nothing is assumed about it but that its answer to a call
is a function of the call and of the calls before it.
-/

namespace QueryPipeline

open Document Pipeline

/-- A pipeline sent to a collection. -/
structure Call where
  /-- The name of the collection. -/
  collection : String
  /-- The stages as they are sent. -/
  pipeline : List Stage
  /-- The most rows that are asked for, if there is a bound. -/
  length : Option Nat

/-- The answer to a call. -/
inductive Response
  /-- The rows that the pipeline yields. -/
  | rows (rows : List Value)
  /-- A failure of the engine. -/
  | failure (text : String)
  deriving Inhabited

/-- The answer to a call after earlier calls. -/
abbrev Engine := List Call → Call → Response

/-- The engine that gives the answers of a list one after another, and no rows after the last. -/
def Engine.scripted (answers : List Response) : Engine := fun earlier _ =>
  answers.getD earlier.length (.rows [])

end QueryPipeline
