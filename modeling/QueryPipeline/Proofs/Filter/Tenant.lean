import QueryPipeline.Filter.Tenant
import QueryPipeline.Proofs.Filter.Compile
import QueryPipeline.Proofs.Filter.Share
import QueryPipeline.Proofs.Pipeline.Reading

/-!
# Filters confined to a tenant

The filter of a tenant always has a condition or fails, so it is never dropped. What the filters of
a client on other fields add after it only leaves rows out. A block of such stages is what all lists
put in the place of their filters.
-/

namespace QueryPipeline

open Document Number Pipeline Text Url

/-- The condition of the filter of a tenant. -/
def tenantCondition (field tenant : String) : Except Failure Condition :=
  let text := String.ofList (literal tenant.toList)
  if identifierFields.contains field then (Identifier.ofText text).map .identified
  else .ok (.field field (.matching (wholeText text)))

/-- The filter of a tenant has that condition and is never dropped. -/
theorem tenantFilter_condition {field : String} (named : field ≠ "") (tenant : String) :
    (tenantFilter field tenant).condition = (tenantCondition field tenant).map some := by
  have complete : (tenantFilter field tenant).condition =
      stringCondition field (String.ofList (literal tenant.toList)) .equal :=
    if_pos ⟨named, rfl, rfl⟩
  rw [complete, stringCondition, tenantCondition]
  split
  · cases Identifier.ofText (String.ofList (literal tenant.toList)) <;> rfl
  · rfl

/-- Filters are confined to a tenant by its filter and by leaving out those on its field. -/
theorem confine_tenant {tenant field : String} (nonempty : tenant ≠ "") (named : field ≠ "")
    (filters : List Filter) :
    confine (some tenant) field filters =
      tenantFilter field tenant :: filters.filter (·.field ≠ some field) := by
  simp [confine, nonEmpty, nonempty, named]

/-- Filters are left as they are where there is no tenant or no field for it. -/
theorem confine_of_unowned {tenant : Option String} {field : String}
    (unowned : ¬∃ name, tenant = some name ∧ name ≠ "" ∧ field ≠ "") (filters : List Filter) :
    confine tenant field filters = filters := by
  cases tenant with
  | none => rfl
  | some name =>
    by_cases empty : name = ""
    · rw [confine, nonEmpty, if_pos empty]
    · by_cases unnamed : field = ""
      · rw [confine, nonEmpty, if_neg empty]
        exact if_pos unnamed
      · exact absurd ⟨name, rfl, empty, unnamed⟩ unowned

/-- What a filter makes leaves rows out. -/
theorem Filter.Makes.isReducing {filter : Filter} {stage : Stage} (makes : filter.Makes stage) :
    stage.IsReducing := by
  cases makes with
  | condition => exact Stage.isReducing_select _
  | window asked read shared mem =>
    obtain ⟨-, rfl⟩ | ⟨-, size, -, rfl⟩ := shareStages_eq_ok shared
    · cases mem
    · obtain rfl | ⟨rfl, -⟩ | rfl := mem_windowStages mem
      · exact Stage.isReducing_select _
      · exact Stage.isReducing_skip _
      · exact Stage.isReducing_limit _

/-- A block of stages that starts with the condition of a tenant. Every other stage has a single
operator, one that leaves rows out, and is made by a filter of the client on another field than that
of the tenant. -/
def ConfinedBlock (scope : Condition) (field : String) (client : List Filter)
    (block : List Stage) : Prop :=
  ∃ rest, block = .select scope :: rest ∧ ∀ stage ∈ rest, stage.IsReducing ∧
    ∃ filter ∈ client, filter.field ≠ some field ∧ filter.Makes stage

/-- Stages made by the filters of a client on other fields follow the condition of the tenant. -/
theorem confinedBlock_cons {scope : Condition} {field : String} {client : List Filter}
    {more : List Stage} (made : MadeBy (client.filter (·.field ≠ some field)) more) :
    ConfinedBlock scope field client (.select scope :: more) := by
  refine ⟨more, rfl, fun stage mem => ?_⟩
  obtain ⟨filter, inside, makes⟩ := made stage mem
  obtain ⟨wrote, foreign⟩ := List.mem_filter.mp inside
  exact ⟨makes.isReducing, filter, wrote, of_decide_eq_true foreign, makes⟩

/-- Every row that leaves a confined block satisfies the condition of the tenant. -/
theorem ConfinedBlock.satisfies {Row : Type} (reading : Reading Row) {scope : Condition}
    {field : String} {client : List Filter} {block : List Stage}
    (confined : ConfinedBlock scope field client block) {rows : List Row} {row : Row}
    (mem : row ∈ reading.run block rows) : reading.satisfies scope.toValue row = true := by
  obtain ⟨rest, rfl, others⟩ := confined
  exact reading.satisfies_of_mem_run (fun stage inside => (others stage inside).1) mem

/-- The compilation of confined filters starts with the condition of the tenant, before anything is
sent, or fails on it. -/
theorem Builds.confined {engine : Engine} {collection tenant field : String}
    (named : field ≠ "") {others : List Filter} {trace after : Trace}
    {result : Except Failure (List Stage)}
    (run : Builds engine collection [] (tenantFilter field tenant :: others) trace result after) :
    (∃ failure, result = .error failure ∧ after = trace) ∨
      ∃ scope, (tenantFilter field tenant).condition = .ok (some scope) ∧
        Builds engine collection [.select scope] others trace result after := by
  cases run with
  | stopped step =>
    cases step with
    | broken => exact .inl ⟨_, rfl, rfl⟩
    | uncut made asked => cases asked.1
  | next step others =>
    cases step with
    | dropped made =>
      rw [tenantFilter_condition named] at made
      obtain ⟨scope, -, same⟩ := map_eq_ok made
      cases same
    | whole made => exact .inr ⟨_, made, others⟩
    | ignored made asked => cases asked.1
    | cut made asked => cases asked.1

section

variable {engine : Engine} {collection field : String} {scope : Condition} {client : List Filter}
  {trace after : Trace}

/-- The compilation of a client's other filters after the condition of a tenant counts nothing but
confined blocks. -/
theorem Builds.confined_calls {result : Except Failure (List Stage)}
    (run : Builds engine collection [.select scope] (client.filter (·.field ≠ some field)) trace
      result after) :
    ∃ calls, after.calls = trace.calls ++ calls ∧ ∀ call ∈ calls, ∃ block,
      ConfinedBlock scope field client block ∧ call = .counting collection block := by
  obtain ⟨calls, sent, counts⟩ := run.calls
  refine ⟨calls, sent, fun call mem => ?_⟩
  obtain ⟨more, rfl, made⟩ := counts call mem
  exact ⟨_, confinedBlock_cons made, rfl⟩

/-- The compilation of a client's other filters after the condition of a tenant gives a confined
block. -/
theorem Builds.confined_outcome {final : List Stage}
    (run : Builds engine collection [.select scope] (client.filter (·.field ≠ some field)) trace
      (.ok final) after) :
    ConfinedBlock scope field client final := by
  obtain ⟨more, rfl, made⟩ := run.outcome
  exact confinedBlock_cons made

end

/-- What a filter compiles to on its own is made by it. -/
theorem makes_of_compile {filter : Filter} {stages : List Stage}
    (compiled : compile [filter] = .ok stages) : ∀ stage ∈ stages, filter.Makes stage := by
  intro stage mem
  rw [compile_singleton] at compiled
  obtain ⟨condition?, made, rfl⟩ := map_eq_ok compiled
  cases condition? with
  | none => cases mem
  | some condition =>
    rw [List.mem_singleton.mp mem]
    exact .condition made

/-- What filters compile to is made by them. -/
theorem madeBy_of_compile {filters : List Filter} {stages : List Stage}
    (compiled : compile filters = .ok stages) : MadeBy filters stages := by
  induction filters generalizing stages with
  | nil =>
    cases compiled
    exact .nil
  | cons filter rest ih =>
    rw [compile_cons] at compiled
    obtain ⟨part, first, together⟩ := bind_eq_ok compiled
    obtain ⟨more, others, rfl⟩ := map_eq_ok together
    exact (MadeBy.head (makes_of_compile first)).append (ih others).tail

/-- What confined filters compile to starts with the condition of the tenant. -/
theorem compile_confined {tenant field : String} (named : field ≠ "") {others : List Filter}
    {stages : List Stage} (compiled : compile (tenantFilter field tenant :: others) = .ok stages) :
    ∃ scope more, (tenantFilter field tenant).condition = .ok (some scope) ∧
      stages = .select scope :: more ∧ MadeBy others more := by
  rw [compile_cons, compile_singleton, tenantFilter_condition named] at compiled
  obtain ⟨part, first, together⟩ := bind_eq_ok compiled
  obtain ⟨more, rest, rfl⟩ := map_eq_ok together
  obtain ⟨condition?, condition, rfl⟩ := map_eq_ok first
  obtain ⟨scope, made, rfl⟩ := map_eq_ok condition
  rw [tenantFilter_condition named, made]
  exact ⟨scope, more, rfl, rfl, madeBy_of_compile rest⟩

end QueryPipeline
