import QueryPipeline.Proofs.Filter.ShareCount
import QueryPipeline.Proofs.Filter.ShareSize

/-!
# Compilations within range

While a list of filters is compiled, shares are taken of the totals that are counted. As long as all
of them fit, every stage stays in range, and nothing fails but a condition or a count. A share that
does not fit leaves a trace: either its size cannot be told and the compilation fails, or a stage
out of range is in the outcome.
-/

namespace QueryPipeline

open Document Number Pipeline

/-- An engine that never counts a negative number of documents. -/
def Engine.CountsUp (engine : Engine) : Prop :=
  ∀ earlier collection pipeline total,
    engine.total earlier (.counting collection pipeline) = .ok total → 0 ≤ total

/-- A share of a total is taken while some filters are compiled: the filters before the one that
asks for it are compiled, and the total is counted behind the condition of that one. -/
inductive TakesShare (engine : Engine) (collection : String) (pipeline : List Stage)
    (filters : List Filter) (trace : Trace) (total : Int) (percent : Binary64) : Prop
  /-- The filters are split at the one that asks for the share. -/
  | at {front rest : List Filter} {filter : Filter} {selected : List Stage} {between : Trace}
      {condition : Condition} (split : filters = front ++ filter :: rest)
      (before : compileSharesAfter collection pipeline front engine trace = (.ok selected, between))
      (made : filter.condition = .ok (some condition))
      (asked : filter.finiteShare? = some percent)
      (counted : engine.total between.calls
        (.counting collection (selected ++ [.select condition])) = .ok total) :
      TakesShare engine collection pipeline filters trace total percent

/-- The failures of a compilation that no share has a part in. -/
inductive CompilationFault (engine : Engine) (collection : String) (filters : List Filter)
    (failure : Failure) : Prop
  /-- The condition of a filter cannot be made. -/
  | condition {filter : Filter} (mem : filter ∈ filters)
      (made : filter.condition = .error failure) :
      CompilationFault engine collection filters failure
  /-- The documents cannot be counted. -/
  | count {earlier : List Call} {counted : List Stage}
      (failed : engine.total earlier (.counting collection counted) = .error failure) :
      CompilationFault engine collection filters failure

/-- A fault of some filters is a fault of more filters. -/
theorem CompilationFault.tail {engine : Engine} {collection : String} {filter : Filter}
    {filters : List Filter} {failure : Failure}
    (fault : CompilationFault engine collection filters failure) :
    CompilationFault engine collection (filter :: filters) failure := by
  cases fault with
  | condition mem made => exact .condition (List.mem_cons_of_mem _ mem) made
  | count failed => exact .count failed

/-- A stage that is put together for filters whose shares fit: it is in range, and it is a condition
or has few enough digits to be written. -/
structure Pipeline.Stage.IsFitting (stage : Stage) : Prop where
  /-- The stage is in range. -/
  inRange : stage.InRange
  /-- The stage is a condition or can be written. -/
  written : (∃ condition, stage = .select condition) ∨ canBeWritten [stage] = true

/-- A condition fits. -/
theorem Pipeline.Stage.isFitting_select (condition : Condition) :
    (Stage.select condition).IsFitting :=
  ⟨inRange_select condition, .inl ⟨condition, rfl⟩⟩

/-- The share that is read is the one that is asked for. -/
theorem Filter.asksFor_of_finiteShare? {filter : Filter} {percent : Binary64}
    (asked : filter.finiteShare? = some percent) :
    ∃ share, filter.asksFor share ∧ readShare? share = some percent := by
  rw [finiteShare?] at asked
  obtain ⟨share, given, read⟩ := Option.bind_eq_some_iff.mp asked
  split at read
  · cases read
  · next nonempty => exact ⟨share, ⟨given, nonempty⟩, read⟩

/-- A count has only stages in range where the counted stages are. -/
theorem Call.inRange_counting {collection : String} {counted : List Stage}
    (inRange : ∀ stage ∈ counted, stage.InRange) :
    ∀ stage ∈ (Call.counting collection counted).pipeline, stage.InRange :=
  List.forall_mem_append.mpr ⟨inRange, List.forall_mem_singleton.mpr (Stage.inRange_count _)⟩

/-- Two lists of filters are compiled one after the other. -/
theorem compileSharesAfter_append (collection : String) (pipeline : List Stage)
    (front back : List Filter) :
    compileSharesAfter collection pipeline (front ++ back) =
      compileSharesAfter collection pipeline front >>= fun selected =>
        compileSharesAfter collection selected back := by
  induction front generalizing pipeline with
  | nil => rfl
  | cons filter rest ih =>
    rw [List.cons_append, compileSharesAfter_cons, compileSharesAfter_cons, bind_assoc]
    congr 1
    funext added
    exact ih _

/-- What was there before a compilation is the start of its outcome. -/
theorem compileSharesAfter_starts {engine : Engine} {collection : String}
    {pipeline final : List Stage} {filters : List Filter} {trace : Trace}
    (ended : (compileSharesAfter collection pipeline filters engine trace).1 = .ok final) :
    pipeline <+: final := by
  have run := compileSharesAfter_builds engine collection filters pipeline trace
  rw [ended] at run
  obtain ⟨more, rfl, -⟩ := run.outcome
  exact List.prefix_append _ _

namespace TakesShare

variable {engine : Engine} {collection : String} {pipeline : List Stage} {filter : Filter}
  {filters : List Filter} {trace : Trace} {total : Int} {percent : Binary64}

/-- The share of the first filter is taken of what is counted for it. -/
theorem head {condition : Condition} (made : filter.condition = .ok (some condition))
    (asked : filter.finiteShare? = some percent)
    (counted : engine.total trace.calls
      (.counting collection (pipeline ++ [.select condition])) = .ok total) :
    TakesShare engine collection pipeline (filter :: filters) trace total percent :=
  .at (List.nil_append _).symm rfl made asked counted

/-- A share that is taken behind the first filter is taken. -/
theorem tail {added : List Stage} {between : Trace}
    (step : Added engine collection pipeline filter trace (.ok added) between)
    (later : TakesShare engine collection (pipeline ++ added) filters between total percent) :
    TakesShare engine collection pipeline (filter :: filters) trace total percent := by
  obtain ⟨rfl, before, made, asked, counted⟩ := later
  refine .at (List.cons_append ..).symm ?_ made asked counted
  rw [compileSharesAfter_cons, Session.bind_ok step.apply]
  exact before

/-- A share is taken of no negative total where none is counted. -/
theorem nonneg (taken : TakesShare engine collection pipeline filters trace total percent)
    (counts : engine.CountsUp) : 0 ≤ total := by
  obtain ⟨-, -, -, -, counted⟩ := taken
  exact counts _ _ _ _ counted

/-- What becomes of a share that is taken: its stages are in the outcome, or they cannot be told and
the compilation fails for that. -/
theorem outcome (taken : TakesShare engine collection pipeline filters trace total percent) :
    (∃ failure, shareStages total percent = .error failure ∧
        (compileSharesAfter collection pipeline filters engine trace).1 = .error failure) ∨
      ∃ window, shareStages total percent = .ok window ∧
        ∀ final, (compileSharesAfter collection pipeline filters engine trace).1 = .ok final →
          ∀ stage ∈ window, stage ∈ final := by
  obtain ⟨rfl, before, made, asked, counted⟩ := taken
  obtain ⟨share, asks, read⟩ := Filter.asksFor_of_finiteShare? asked
  rw [compileSharesAfter_append, Session.bind_ok before, compileSharesAfter_cons]
  cases shared : shareStages total percent with
  | error failure =>
    refine .inl ⟨failure, rfl, ?_⟩
    rw [Session.bind_error (Added.apply (.uncut made asks read (by rw [counted]; exact shared)))]
  | ok window =>
    refine .inr ⟨window, rfl, fun final ended stage mem => ?_⟩
    rw [Session.bind_ok (Added.apply (.cut made asks read counted shared))] at ended
    refine (compileSharesAfter_starts ended).subset (List.mem_append_right _ ?_)
    exact List.mem_cons_of_mem _ mem

end TakesShare

/-- What a filter adds has a property that its condition has and the window of its share, if one is
taken. -/
theorem Added.forall_added {engine : Engine} {collection : String} {pipeline added : List Stage}
    {filter : Filter} {filters : List Filter} {trace after : Trace} {holds : Stage → Prop}
    (step : Added engine collection pipeline filter trace (.ok added) after)
    (selects : ∀ condition, filter.condition = .ok (some condition) → holds (.select condition))
    (shares : ∀ total percent window,
      TakesShare engine collection pipeline (filter :: filters) trace total percent →
        shareStages total percent = .ok window → ∀ stage ∈ window, holds stage) :
    ∀ stage ∈ added, holds stage := by
  cases step with
  | dropped => exact List.forall_mem_nil _
  | whole made | ignored made => exact List.forall_mem_singleton.mpr (selects _ made)
  | cut made asked read counted shared =>
    have finite := (Filter.finiteShare?_of_asked asked).trans read
    have window := shares _ _ _ (.head made finite counted) shared
    exact List.forall_mem_cons.mpr ⟨selects _ made, window⟩

/-- What is counted for a filter has a property that its condition has and the stages before it. -/
theorem Added.forall_counted {engine : Engine} {collection : String} {pipeline : List Stage}
    {filter : Filter} {trace after : Trace} {result : Except Failure (List Stage)}
    {holds : Stage → Prop} (step : Added engine collection pipeline filter trace result after)
    (front : ∀ stage ∈ pipeline, holds stage)
    (selects : ∀ condition, filter.condition = .ok (some condition) → holds (.select condition)) :
    ∃ calls, after.calls = trace.calls ++ calls ∧ ∀ call ∈ calls, ∃ counted,
      call = .counting collection counted ∧ ∀ stage ∈ counted, holds stage := by
  obtain ⟨calls, sent, counts⟩ := step.calls
  refine ⟨calls, sent, fun call mem => ?_⟩
  obtain ⟨condition, made, rfl⟩ := counts call mem
  exact ⟨_, rfl, List.forall_mem_append.mpr
    ⟨front, List.forall_mem_singleton.mpr (selects condition made)⟩⟩

/-- A property that the conditions of some filters have, and the windows of the shares that are
taken for them, is one of all stages that are counted for them, and of their outcome, where the
stages before them have it. -/
theorem Builds.forall_stages {engine : Engine} {collection : String} {pipeline : List Stage}
    {filters : List Filter} {trace after : Trace} {result : Except Failure (List Stage)}
    {holds : Stage → Prop} (run : Builds engine collection pipeline filters trace result after)
    (front : ∀ stage ∈ pipeline, holds stage)
    (selects : ∀ filter ∈ filters, ∀ condition, filter.condition = .ok (some condition) →
      holds (.select condition))
    (shares : ∀ total percent window,
      TakesShare engine collection pipeline filters trace total percent →
        shareStages total percent = .ok window → ∀ stage ∈ window, holds stage) :
    (∃ calls, after.calls = trace.calls ++ calls ∧ ∀ call ∈ calls, ∃ counted,
        call = .counting collection counted ∧ ∀ stage ∈ counted, holds stage) ∧
      ∀ final, result = .ok final → ∀ stage ∈ final, holds stage := by
  -- The stages before a filter are the outcome of the filters before it, so the property is carried
  -- along the run by what each filter adds.
  induction run with
  | done =>
    refine ⟨⟨[], by simp, List.forall_mem_nil _⟩, fun final given => ?_⟩
    cases given
    exact front
  | stopped step =>
    exact ⟨step.forall_counted front (selects _ List.mem_cons_self), fun _ given => (nomatch given)⟩
  | @next pipeline added filter rest trace between after result step others ih =>
    have own := selects filter List.mem_cons_self
    obtain ⟨calls, sent, counted⟩ := step.forall_counted front own
    obtain ⟨⟨later, sentLater, countedLater⟩, outcome⟩ :=
      ih (List.forall_mem_append.mpr ⟨front, step.forall_added own shares⟩)
        (fun filter mem => selects filter (List.mem_cons_of_mem _ mem))
        fun total percent window taken => shares total percent window (.tail step taken)
    exact ⟨⟨calls ++ later, by rw [sentLater, sent, List.append_assoc],
      List.forall_mem_append.mpr ⟨counted, countedLater⟩⟩, outcome⟩

/-- A filter whose share fits fails only for its condition or a count. -/
theorem Added.fault {engine : Engine} {collection : String} {pipeline : List Stage}
    {filter : Filter} {filters : List Filter} {trace after : Trace} {failure : Failure}
    (step : Added engine collection pipeline filter trace (.error failure) after)
    (fit : ∀ total percent,
      TakesShare engine collection pipeline (filter :: filters) trace total percent →
        ShareFits total percent) :
    CompilationFault engine collection (filter :: filters) failure := by
  cases step with
  | broken made => exact .condition List.mem_cons_self made
  | uncut made asked read failed =>
    cases counted : engine.total trace.calls (.counting collection (pipeline ++ [.select _])) with
    | error other =>
      rw [counted] at failed
      cases failed
      exact .count counted
    | ok total =>
      have finite := (Filter.finiteShare?_of_asked asked).trans read
      obtain ⟨window, shared⟩ := (fit _ _ (.head made finite counted)).window
      rw [counted] at failed
      exact nomatch failed.symm.trans shared

/-- Filters whose shares all fit fail only for a condition or a count. -/
theorem Builds.fault {engine : Engine} {collection : String} {pipeline : List Stage}
    {filters : List Filter} {trace after : Trace} {result : Except Failure (List Stage)}
    {failure : Failure} (run : Builds engine collection pipeline filters trace result after)
    (fit : ∀ total percent,
      TakesShare engine collection pipeline filters trace total percent →
        ShareFits total percent)
    (failed : result = .error failure) : CompilationFault engine collection filters failure := by
  induction run with
  | done => cases failed
  | stopped step =>
    cases failed
    exact step.fault fit
  | next step others ih =>
    exact (ih (fun total percent taken => fit total percent (.tail step taken)) failed).tail

/-- The window of a share that is taken and fits is fitting. -/
theorem TakesShare.isFitting {engine : Engine} {collection : String} {pipeline : List Stage}
    {filters : List Filter} {trace : Trace} {total : Int} {percent : Binary64}
    (taken : TakesShare engine collection pipeline filters trace total percent)
    (counts : engine.CountsUp) (fits : ShareFits total percent) {window : List Stage}
    (shared : shareStages total percent = .ok window) : ∀ stage ∈ window, stage.IsFitting := by
  have least := taken.nonneg counts
  obtain ⟨-, -, -, -, counted⟩ := taken
  have inRange := (inRange_shareStages_iff least shared).mpr fits
  have written := canBeWritten_iff.mp
    (canBeWritten_shareStages least (Engine.isWritable_total counted) fits shared)
  exact fun stage mem => ⟨inRange stage mem, .inr (written stage mem)⟩

/-- A compilation of filters whose shares all fit: every stage of every count is in range, the
outcome is fitting where the stages before it are, and it fails only for a condition or a count. -/
theorem Builds.isFitting {engine : Engine} {collection : String} {pipeline : List Stage}
    {filters : List Filter} {trace after : Trace} {result : Except Failure (List Stage)}
    (counts : engine.CountsUp)
    (run : Builds engine collection pipeline filters trace result after)
    (front : ∀ stage ∈ pipeline, stage.IsFitting)
    (fit : ∀ total percent,
      TakesShare engine collection pipeline filters trace total percent →
        ShareFits total percent) :
    (∃ calls, after.calls = trace.calls ++ calls ∧
        ∀ call ∈ calls, ∀ stage ∈ call.pipeline, stage.InRange) ∧
      (∀ final, result = .ok final → ∀ stage ∈ final, stage.IsFitting) ∧
      ∀ failure, result = .error failure →
        CompilationFault engine collection filters failure := by
  obtain ⟨⟨calls, sent, counted⟩, outcome⟩ := run.forall_stages front
    (fun _ _ condition _ => Stage.isFitting_select condition)
    fun total percent window taken => taken.isFitting counts (fit total percent taken)
  refine ⟨⟨calls, sent, fun call mem => ?_⟩, outcome, fun failure => run.fault fit⟩
  obtain ⟨stages, rfl, fitting⟩ := counted call mem
  exact Call.inRange_counting fun stage inside => (fitting stage inside).inRange

/-- All shares that are taken while some filters are compiled from a fresh start fit. -/
def SharesFit (engine : Engine) (collection : String) (filters : List Filter) : Prop :=
  ∀ total percent, TakesShare engine collection [] filters .empty total percent →
    ShareFits total percent

/-- Of a compilation that succeeds, every stage is in range exactly where all shares fit. -/
theorem compileShares_inRange_iff {engine : Engine} {collection : String} {filters : List Filter}
    {selected : List Stage} (counts : engine.CountsUp)
    (compiled : ((compileShares collection filters).run engine).1 = .ok selected) :
    (∀ stage ∈ selected, stage.InRange) ↔ SharesFit engine collection filters := by
  constructor
  · intro inRange total percent taken
    obtain ⟨failure, -, failed⟩ | ⟨window, shared, inside⟩ := taken.outcome
    · exact nomatch failed.symm.trans compiled
    · have least := taken.nonneg counts
      exact (inRange_shareStages_iff least shared).mp fun stage mem =>
        inRange stage (inside selected compiled stage mem)
  · intro fit stage mem
    have run := compileSharesAfter_builds engine collection filters [] .empty
    obtain ⟨-, outcome, -⟩ := run.isFitting counts (List.forall_mem_nil _) fit
    exact (outcome selected compiled stage mem).inRange

end QueryPipeline
