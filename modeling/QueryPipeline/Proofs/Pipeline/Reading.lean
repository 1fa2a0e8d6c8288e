import QueryPipeline.Pipeline.Stage

/-!
# Readings of stages as functions on rows

Nothing is known about an engine but what its operators are documented to do. A reading says how
every stage turns rows into rows, and asks only that a selection keeps the rows that satisfy its
query and that a skip and a limit leave rows out. Stages are read as they are sent.
-/

namespace QueryPipeline.Pipeline

open Document

/-- A reading of stages as functions on rows. -/
structure Reading (Row : Type) where
  /-- Whether a row satisfies a query. -/
  satisfies : Value → Row → Bool
  /-- The rows that a stage makes of rows. -/
  apply : Members → List Row → List Row
  /-- A selection keeps the rows that satisfy its query. -/
  apply_match (query : Value) (rows : List Row) :
    apply [("$match", query)] rows = rows.filter (satisfies query)
  /-- A skip leaves rows out. -/
  apply_skip (argument : Value) (rows : List Row) :
    (apply [("$skip", argument)] rows).Sublist rows
  /-- A limit leaves rows out. -/
  apply_limit (argument : Value) (rows : List Row) :
    (apply [("$limit", argument)] rows).Sublist rows

/-- The rows that stages make of rows one after another. -/
def Reading.run {Row : Type} (reading : Reading Row) (stages : List Stage) (rows : List Row) :
    List Row :=
  stages.foldl (fun rows stage => reading.apply stage.members rows) rows

/-- A stage with a single operator, one that leaves rows out. -/
def Stage.IsReducing (stage : Stage) : Prop :=
  ∃ argument, stage.members = [("$match", argument)] ∨ stage.members = [("$skip", argument)] ∨
    stage.members = [("$limit", argument)]

/-- A selection leaves rows out. -/
theorem Stage.isReducing_select (condition : Condition) : (select condition).IsReducing :=
  ⟨condition.toValue, .inl rfl⟩

/-- A skip leaves rows out. -/
theorem Stage.isReducing_skip (count : Int) : (skip count).IsReducing :=
  ⟨.int count, .inr (.inl rfl)⟩

/-- A limit leaves rows out. -/
theorem Stage.isReducing_limit (count : Int) : (limit count).IsReducing :=
  ⟨.int count, .inr (.inr rfl)⟩

namespace Reading

variable {Row : Type} (reading : Reading Row)

/-- Stages in two parts are run one part after the other. -/
theorem run_append (first second : List Stage) (rows : List Row) :
    reading.run (first ++ second) rows = reading.run second (reading.run first rows) :=
  List.foldl_append

/-- A stage that leaves rows out gives some of the rows in order. -/
theorem apply_sublist {stage : Stage} (reducing : stage.IsReducing) (rows : List Row) :
    (reading.apply stage.members rows).Sublist rows := by
  obtain ⟨argument, shape | shape | shape⟩ := reducing
  · rw [shape, reading.apply_match]
    exact List.filter_sublist
  · rw [shape]
    exact reading.apply_skip argument rows
  · rw [shape]
    exact reading.apply_limit argument rows

/-- Stages that leave rows out give some of the rows in order. -/
theorem run_sublist {stages : List Stage} (reducing : ∀ stage ∈ stages, stage.IsReducing)
    (rows : List Row) : (reading.run stages rows).Sublist rows := by
  induction stages generalizing rows with
  | nil => exact List.Sublist.refl rows
  | cons stage rest ih =>
    have first := reading.apply_sublist (reducing stage List.mem_cons_self) rows
    have others := ih (fun stage mem => reducing stage (List.mem_cons_of_mem _ mem))
      (reading.apply stage.members rows)
    exact others.trans first

/-- Every row that leaves a selection and stages that leave rows out satisfies the selection. -/
theorem satisfies_of_mem_run {condition : Condition} {rest : List Stage}
    (reducing : ∀ stage ∈ rest, stage.IsReducing) {rows : List Row} {row : Row}
    (mem : row ∈ reading.run (.select condition :: rest) rows) :
    reading.satisfies condition.toValue row = true := by
  have selected : row ∈ reading.apply [("$match", condition.toValue)] rows :=
    (reading.run_sublist reducing _).mem mem
  rw [reading.apply_match] at selected
  exact (List.mem_filter.mp selected).2

end Reading

/-- A reading under which a sort shows nothing that was not there. -/
structure SortReading (Row : Type) extends Reading Row where
  /-- The rows of a sort are rows it was given. -/
  apply_sort (argument : Value) (rows : List Row) :
    ∀ row ∈ apply [("$sort", argument)] rows, row ∈ rows

/-- The rows that a stage makes of documents where a sort keeps their order and whatever is neither
a selection, a window nor a count passes them on. -/
def applyPlainly (satisfies : Value → Value → Bool) : Members → List Value → List Value
  | [("$match", query)], rows => rows.filter (satisfies query)
  | [("$skip", .int count)], rows => rows.drop count.toNat
  | [("$limit", .int count)], rows => rows.take count.toNat
  | [("$count", .text field)], rows => [.object [(field, .int rows.length)]]
  | _, rows => rows

/-- There is such a reading of documents for every way to satisfy a query. -/
def SortReading.plain (satisfies : Value → Value → Bool) : SortReading Value where
  satisfies
  apply := applyPlainly satisfies
  apply_match _ _ := rfl
  apply_skip argument rows := by
    cases argument with
    | int count => exact List.drop_sublist _ _
    | _ => exact List.Sublist.refl _
  apply_limit argument rows := by
    cases argument with
    | int count => exact List.take_sublist _ _
    | _ => exact List.Sublist.refl _
  apply_sort _ _ _ mem := mem

/-- A stage with a single operator, one that leaves rows out or sorts them. -/
def Stage.IsKeeping (stage : Stage) : Prop :=
  stage.IsReducing ∨ ∃ argument, stage.members = [("$sort", argument)]

namespace SortReading

variable {Row : Type} (reading : SortReading Row)

/-- The rows of a stage that leaves rows out or sorts them are rows it was given. -/
theorem mem_of_mem_apply {stage : Stage} (keeping : stage.IsKeeping) {rows : List Row} {row : Row}
    (mem : row ∈ reading.apply stage.members rows) : row ∈ rows := by
  obtain reducing | ⟨argument, shape⟩ := keeping
  · exact (reading.apply_sublist reducing rows).mem mem
  · rw [shape] at mem
    exact reading.apply_sort argument rows row mem

/-- The rows of stages that leave rows out or sort them are rows they were given. -/
theorem mem_of_mem_run {stages : List Stage} (keeping : ∀ stage ∈ stages, stage.IsKeeping)
    {rows : List Row} {row : Row} (mem : row ∈ reading.run stages rows) : row ∈ rows := by
  induction stages generalizing rows with
  | nil => exact mem
  | cons stage rest ih =>
    have others := ih (fun stage inside => keeping stage (List.mem_cons_of_mem _ inside)) mem
    exact reading.mem_of_mem_apply (keeping stage List.mem_cons_self) others

/-- Every row that leaves stages which leave rows out or sort them satisfies each selection among
them. -/
theorem satisfies_of_selected {condition : Condition} {stages : List Stage}
    (keeping : ∀ stage ∈ stages, stage.IsKeeping)
    (selected : (Stage.select condition).members ∈ stages.map Stage.members) {rows : List Row}
    {row : Row} (mem : row ∈ reading.run stages rows) :
    reading.satisfies condition.toValue row = true := by
  obtain ⟨stage, inside, shape⟩ := List.mem_map.mp selected
  obtain ⟨before, later, rfl⟩ := List.append_of_mem inside
  rw [reading.run_append] at mem
  have rest : ∀ stage ∈ later, stage.IsKeeping := fun stage behind =>
    keeping stage (List.mem_append_right _ (List.mem_cons_of_mem _ behind))
  have left : row ∈ reading.apply stage.members (reading.run before rows) :=
    reading.mem_of_mem_run rest mem
  rw [shape, Stage.members, reading.apply_match] at left
  exact (List.mem_filter.mp left).2

end SortReading

end QueryPipeline.Pipeline
