import QueryPipeline.Filter.Share
import QueryPipeline.Proofs.Engine.Session

/-!
# Compiling filters one after another

What one filter adds to the stages before it is one of a few things, told apart by its condition,
its share and the answer of the engine. A whole list of filters is compiled by adding them in turn,
up to the first that fails. Everything about the compilation of shares is derived from these two
relations; the share of a filter is always counted after the stages that are made so far and the
filter's own condition.
-/

namespace QueryPipeline

open Number Pipeline

/-- The stages that a filter adds to those before it, its share being counted in a collection. -/
def Filter.add (collection : String) (pipeline : List Stage) (filter : Filter) :
    Session (List Stage) := do
  match ← Session.ofExcept filter.condition with
  | none => pure []
  | some condition => do
    let share ← shareOf collection (pipeline ++ [.select condition]) filter
    pure (.select condition :: share)

/-- A list of filters is compiled by adding the first and going on after what it adds. -/
theorem compileSharesAfter_cons (collection : String) (pipeline : List Stage) (filter : Filter)
    (rest : List Filter) :
    compileSharesAfter collection pipeline (filter :: rest) =
      filter.add collection pipeline >>= fun added =>
        compileSharesAfter collection (pipeline ++ added) rest := by
  rw [compileSharesAfter, Filter.add]
  simp only [bind_assoc]
  congr 1
  funext condition?
  cases condition? with
  | none => simp
  | some condition => simp

/-- The share that a filter asks for, if it asks for one. -/
def Filter.asksFor (filter : Filter) (share : String) : Prop :=
  filter.share = some share ∧ share ≠ ""

/-- The ways in which a filter is added to the stages before it: the outcome and the trace after
it. Only a share that is a finite number is counted. -/
inductive Added (engine : Engine) (collection : String) (pipeline : List Stage) (filter : Filter)
    (trace : Trace) : Except Failure (List Stage) → Trace → Prop
  /-- The condition cannot be made. -/
  | broken {failure : Failure} (made : filter.condition = .error failure) :
      Added engine collection pipeline filter trace (.error failure) trace
  /-- There is no condition. -/
  | dropped (made : filter.condition = .ok none) :
      Added engine collection pipeline filter trace (.ok []) trace
  /-- The condition stands without a share. -/
  | whole {condition : Condition} (made : filter.condition = .ok (some condition))
      (unasked : ∀ share, ¬filter.asksFor share) :
      Added engine collection pipeline filter trace (.ok [.select condition]) trace
  /-- The share is no number and is passed over. -/
  | ignored {condition : Condition} {share : String}
      (made : filter.condition = .ok (some condition)) (asked : filter.asksFor share)
      (unread : readShare? share = none) :
      Added engine collection pipeline filter trace (.ok [.select condition])
        (trace.noted ⟨.warning, filterLogger, ignoredShareText filter share⟩)
  /-- The documents cannot be counted, or their share cannot be told. -/
  | uncut {condition : Condition} {share : String} {percent : Binary64} {failure : Failure}
      (made : filter.condition = .ok (some condition)) (asked : filter.asksFor share)
      (read : readShare? share = some percent)
      (failed : (engine.total trace.calls
          (.counting collection (pipeline ++ [.select condition]))).bind
            (shareStages · percent) = .error failure) :
      Added engine collection pipeline filter trace (.error failure)
        (trace.sent (.counting collection (pipeline ++ [.select condition])))
  /-- The share is cut out of the documents that are counted. -/
  | cut {condition : Condition} {share : String} {percent : Binary64} {total : Int}
      {window : List Stage}
      (made : filter.condition = .ok (some condition)) (asked : filter.asksFor share)
      (read : readShare? share = some percent)
      (counted : engine.total trace.calls
        (.counting collection (pipeline ++ [.select condition])) = .ok total)
      (shared : shareStages total percent = .ok window) :
      Added engine collection pipeline filter trace (.ok (.select condition :: window))
        (trace.sent (.counting collection (pipeline ++ [.select condition])))

/-- A filter with a condition is added with its share. -/
theorem Filter.add_of_condition {collection : String} {pipeline : List Stage} {filter : Filter}
    {condition : Condition} (made : filter.condition = .ok (some condition)) :
    filter.add collection pipeline =
      (shareOf collection (pipeline ++ [.select condition]) filter >>= fun share =>
        pure (.select condition :: share)) := by
  rw [Filter.add, made]
  rfl

/-- A share that is not asked for adds nothing. -/
theorem shareOf_of_unasked {collection : String} {pipeline : List Stage} {filter : Filter}
    (unasked : ∀ share, ¬filter.asksFor share) : shareOf collection pipeline filter = pure [] := by
  rw [shareOf]
  cases given : filter.share with
  | none => rfl
  | some share =>
    by_cases empty : share = ""
    · exact if_pos empty
    · exact absurd ⟨given, empty⟩ (unasked share)

/-- A share that is no number adds nothing but a warning. -/
theorem shareOf_of_unread {collection : String} {pipeline : List Stage} {filter : Filter}
    {share : String} (asked : filter.asksFor share) (unread : readShare? share = none) :
    shareOf collection pipeline filter =
      (Session.log .warning filterLogger (ignoredShareText filter share) >>= fun _ => pure []) := by
  rw [shareOf, asked.1]
  simp only [if_neg asked.2, unread]

/-- A share that is a number is cut out of what is counted. -/
theorem shareOf_of_read {collection : String} {pipeline : List Stage} {filter : Filter}
    {share : String} {percent : Binary64} (asked : filter.asksFor share)
    (read : readShare? share = some percent) :
    shareOf collection pipeline filter =
      (Session.count collection pipeline >>= fun total =>
        Session.ofExcept (shareStages total percent)) := by
  rw [shareOf, asked.1]
  simp only [if_neg asked.2, read]

/-- A filter is added in one of these ways. -/
theorem Filter.add_cases (engine : Engine) (collection : String) (pipeline : List Stage)
    (filter : Filter) (trace : Trace) :
    Added engine collection pipeline filter trace
      (filter.add collection pipeline engine trace).1
      (filter.add collection pipeline engine trace).2 := by
  cases made : filter.condition with
  | error failure =>
    rw [Filter.add, made]
    exact .broken made
  | ok condition? =>
    cases condition? with
    | none =>
      rw [Filter.add, made]
      exact .dropped made
    | some condition =>
      rw [Filter.add_of_condition made]
      by_cases asks : ∃ share, filter.asksFor share
      · obtain ⟨share, asked⟩ := asks
        cases read : readShare? share with
        | none =>
          rw [shareOf_of_unread asked read]
          exact .ignored made asked read
        | some percent =>
          rw [shareOf_of_read asked read, bind_assoc]
          cases counted : engine.total trace.calls
              (.counting collection (pipeline ++ [.select condition])) with
          | error failure =>
            rw [Session.bind_error (Session.count_apply .. |>.trans (by rw [counted]))]
            exact .uncut made asked read (by rw [counted]; rfl)
          | ok total =>
            rw [Session.bind_ok (Session.count_apply .. |>.trans (by rw [counted]))]
            cases shared : shareStages total percent with
            | error failure => exact .uncut made asked read (by rw [counted]; exact shared)
            | ok window => exact .cut made asked read counted shared
      · have unasked : ∀ share, ¬filter.asksFor share := fun share asked => asks ⟨share, asked⟩
        rw [shareOf_of_unasked unasked]
        exact .whole made unasked

/-- Each of these ways is what adding the filter does, so the outcome and the trace after it are
told by the filter and the engine. -/
theorem Added.apply {engine : Engine} {collection : String} {pipeline : List Stage}
    {filter : Filter} {trace after : Trace} {result : Except Failure (List Stage)}
    (step : Added engine collection pipeline filter trace result after) :
    filter.add collection pipeline engine trace = (result, after) := by
  cases step with
  | broken made | dropped made =>
    rw [Filter.add, made]
    rfl
  | whole made unasked =>
    rw [Filter.add_of_condition made, shareOf_of_unasked unasked]
    rfl
  | ignored made asked unread =>
    rw [Filter.add_of_condition made, shareOf_of_unread asked unread]
    rfl
  | @uncut condition share percent failure made asked read failed =>
    rw [Filter.add_of_condition made, shareOf_of_read asked read, bind_assoc]
    cases counted : engine.total trace.calls
        (.counting collection (pipeline ++ [.select condition])) with
    | error other =>
      rw [counted] at failed
      cases failed
      exact Session.bind_error (Session.count_apply .. |>.trans (by rw [counted]))
    | ok total =>
      rw [counted] at failed
      rw [Session.bind_ok (Session.count_apply .. |>.trans (by rw [counted])),
        show shareStages total percent = .error failure from failed]
      rfl
  | @cut condition share percent total window made asked read counted shared =>
    rw [Filter.add_of_condition made, shareOf_of_read asked read, bind_assoc,
      Session.bind_ok (Session.count_apply .. |>.trans (by rw [counted])), shared]
    rfl

/-- A share of nothing has no stages, and any other is the window of its size. -/
theorem shareStages_eq_ok {total : Int} {percent : Binary64} {window : List Stage}
    (shared : shareStages total percent = .ok window) :
    (total = 0 ∧ window = []) ∨ (total ≠ 0 ∧ ∃ size, shareSize total percent = .ok size ∧
      window = windowStages total size percent.isNegative) := by
  rw [shareStages] at shared
  split at shared
  · next zero =>
    cases shared
    exact .inl ⟨zero, rfl⟩
  · next nonzero =>
    obtain ⟨size, sized, same⟩ := map_eq_ok shared
    exact .inr ⟨nonzero, size, sized, same.symm⟩

/-- The stages of a window: nothing passes, or some documents are left out from the front, or all
but some are left out from the back. -/
theorem mem_windowStages {total size : Int} {fromBack : Bool} {stage : Stage}
    (mem : stage ∈ windowStages total size fromBack) :
    stage = .select .never ∨ (stage = .skip (total - size) ∧ 0 < size) ∨ stage = .limit size := by
  rw [windowStages] at mem
  split at mem
  · exact .inl (List.mem_singleton.mp mem)
  · next some =>
    split at mem
    · rcases List.mem_cons.mp mem with first | last
      · exact .inr (.inl ⟨first, Int.not_le.mp some⟩)
      · exact .inr (.inr (List.mem_singleton.mp last))
    · exact .inr (.inr (List.mem_singleton.mp mem))

/-- A stage that a filter can make: its condition, or a part of the window that its share cuts out
of some number of documents. -/
inductive Filter.Makes (filter : Filter) : Stage → Prop
  /-- The condition of the filter. -/
  | condition {condition : Condition} (made : filter.condition = .ok (some condition)) :
      Makes filter (.select condition)
  /-- A stage of the window. -/
  | window {share : String} {percent : Binary64} {total : Int} {window : List Stage} {stage : Stage}
      (asked : filter.asksFor share) (read : readShare? share = some percent)
      (shared : shareStages total percent = .ok window) (mem : stage ∈ window) :
      Makes filter stage

namespace Added

variable {engine : Engine} {collection : String} {pipeline added : List Stage} {filter : Filter}
  {trace after : Trace} {result : Except Failure (List Stage)}

/-- What a filter adds is made by it. -/
theorem makes (step : Added engine collection pipeline filter trace (.ok added) after) :
    ∀ stage ∈ added, filter.Makes stage := by
  intro stage mem
  cases step with
  | dropped => cases mem
  | whole made =>
    rw [List.mem_singleton] at mem
    exact mem ▸ .condition made
  | ignored made =>
    rw [List.mem_singleton] at mem
    exact mem ▸ .condition made
  | cut made asked read counted shared =>
    rcases List.mem_cons.mp mem with rfl | inside
    · exact .condition made
    · exact .window asked read shared inside

/-- Adding a filter sends nothing but a count of what passes its condition after the stages before
it. -/
theorem calls (step : Added engine collection pipeline filter trace result after) :
    ∃ calls, after.calls = trace.calls ++ calls ∧ ∀ call ∈ calls, ∃ condition,
      filter.condition = .ok (some condition) ∧
        call = .counting collection (pipeline ++ [.select condition]) := by
  cases step with
  | broken | dropped | whole | ignored => exact ⟨[], by simp, by simp⟩
  | uncut made | cut made =>
    refine ⟨_, rfl, ?_⟩
    intro call mem
    exact ⟨_, made, List.mem_singleton.mp mem⟩

end Added

/-- The compilation of a list of filters after some stages: the outcome and the trace after it. -/
inductive Builds (engine : Engine) (collection : String) :
    List Stage → List Filter → Trace → Except Failure (List Stage) → Trace → Prop
  /-- There is no filter left. -/
  | done {pipeline : List Stage} {trace : Trace} :
      Builds engine collection pipeline [] trace (.ok pipeline) trace
  /-- The first filter fails. -/
  | stopped {pipeline : List Stage} {filter : Filter} {rest : List Filter} {failure : Failure}
      {trace after : Trace}
      (step : Added engine collection pipeline filter trace (.error failure) after) :
      Builds engine collection pipeline (filter :: rest) trace (.error failure) after
  /-- The first filter is added, and the others come after it. -/
  | next {pipeline added : List Stage} {filter : Filter} {rest : List Filter}
      {trace between after : Trace} {result : Except Failure (List Stage)}
      (step : Added engine collection pipeline filter trace (.ok added) between)
      (others : Builds engine collection (pipeline ++ added) rest between result after) :
      Builds engine collection pipeline (filter :: rest) trace result after

/-- Every compilation of a list of filters is one of these. -/
theorem compileSharesAfter_builds (engine : Engine) (collection : String) (filters : List Filter)
    (pipeline : List Stage) (trace : Trace) :
    Builds engine collection pipeline filters trace
      (compileSharesAfter collection pipeline filters engine trace).1
      (compileSharesAfter collection pipeline filters engine trace).2 := by
  induction filters generalizing pipeline trace with
  | nil => exact .done
  | cons filter rest ih =>
    have step := Filter.add_cases engine collection pipeline filter trace
    rw [compileSharesAfter_cons]
    cases first : filter.add collection pipeline engine trace with
    | mk result between =>
      rw [first] at step
      cases result with
      | error failure =>
        rw [Session.bind_error first]
        exact .stopped step
      | ok added =>
        rw [Session.bind_ok first]
        exact .next step (ih (pipeline ++ added) between)

/-- Each of these compilations is what compiling the filters does. -/
theorem Builds.apply {engine : Engine} {collection : String} {pipeline : List Stage}
    {filters : List Filter} {trace after : Trace} {result : Except Failure (List Stage)}
    (run : Builds engine collection pipeline filters trace result after) :
    compileSharesAfter collection pipeline filters engine trace = (result, after) := by
  induction run with
  | done => rfl
  | stopped step =>
    rw [compileSharesAfter_cons]
    exact Session.bind_error step.apply
  | next step others ih =>
    rw [compileSharesAfter_cons, Session.bind_ok step.apply]
    exact ih

/-- Every stage of a list is made by one of the filters. -/
def MadeBy (filters : List Filter) (stages : List Stage) : Prop :=
  ∀ stage ∈ stages, ∃ filter ∈ filters, filter.Makes stage

namespace MadeBy

variable {filter : Filter} {filters : List Filter} {first second : List Stage}

/-- No stages are made by any filters. -/
theorem nil : MadeBy filters [] := by
  simp [MadeBy]

/-- The stages of two lists are made where those of each are. -/
theorem append (front : MadeBy filters first) (back : MadeBy filters second) :
    MadeBy filters (first ++ second) := by
  intro stage mem
  rcases List.mem_append.mp mem with left | right
  · exact front stage left
  · exact back stage right

/-- Stages that the first of some filters makes are made by them. -/
theorem head (made : ∀ stage ∈ first, filter.Makes stage) : MadeBy (filter :: filters) first :=
  fun stage mem => ⟨filter, List.mem_cons_self, made stage mem⟩

/-- Stages that some filters make are made by more filters. -/
theorem tail (made : MadeBy filters first) : MadeBy (filter :: filters) first := by
  intro stage mem
  obtain ⟨maker, inside, makes⟩ := made stage mem
  exact ⟨maker, List.mem_cons_of_mem filter inside, makes⟩

end MadeBy

namespace Builds

variable {engine : Engine} {collection : String} {pipeline : List Stage} {filters : List Filter}
  {trace after : Trace} {result : Except Failure (List Stage)}

/-- A compilation sends nothing but counts, each of the stages before the filters and of stages that
the filters make. -/
theorem calls (run : Builds engine collection pipeline filters trace result after) :
    ∃ calls, after.calls = trace.calls ++ calls ∧ ∀ call ∈ calls, ∃ more,
      call = .counting collection (pipeline ++ more) ∧ MadeBy filters more := by
  induction run with
  | done => exact ⟨[], by simp, by simp⟩
  | stopped step =>
    obtain ⟨calls, sent, counts⟩ := step.calls
    refine ⟨calls, sent, fun call mem => ?_⟩
    obtain ⟨condition, made, rfl⟩ := counts call mem
    exact ⟨_, rfl, .head (by simpa using Filter.Makes.condition made)⟩
  | next step others ih =>
    obtain ⟨calls, sent, counts⟩ := step.calls
    obtain ⟨later, sentLater, countsLater⟩ := ih
    refine ⟨calls ++ later, by rw [sentLater, sent, List.append_assoc], fun call mem => ?_⟩
    rcases List.mem_append.mp mem with now | behind
    · obtain ⟨condition, made, rfl⟩ := counts call now
      exact ⟨_, rfl, .head (by simpa using Filter.Makes.condition made)⟩
    · obtain ⟨more, rfl, made⟩ := countsLater call behind
      exact ⟨_, by rw [List.append_assoc], (MadeBy.head step.makes).append made.tail⟩

/-- A compilation that succeeds gives the stages before the filters and stages that the filters
make. -/
theorem outcome {final : List Stage}
    (run : Builds engine collection pipeline filters trace (.ok final) after) :
    ∃ more, final = pipeline ++ more ∧ MadeBy filters more := by
  generalize given : Except.ok final = result at run
  induction run with
  | done =>
    cases given
    exact ⟨[], by simp, .nil⟩
  | stopped => cases given
  | next step others ih =>
    obtain ⟨more, rfl, made⟩ := ih given
    exact ⟨_, List.append_assoc .., (MadeBy.head step.makes).append made.tail⟩

/-- A compilation from a fresh start sends no call without a bound, since counts have one. -/
theorem length_calls (run : Builds engine collection [] filters .empty result after) :
    ∀ call ∈ after.calls, call.length = some 1 := by
  obtain ⟨calls, sent, counts⟩ := run.calls
  rw [Trace.calls_empty, List.nil_append] at sent
  intro call mem
  obtain ⟨more, rfl, -⟩ := counts call (sent ▸ mem)
  rfl

end Builds

end QueryPipeline
