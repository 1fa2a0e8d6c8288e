import QueryPipeline.Filter.Parser
import QueryPipeline.Proofs.Filter.Compile
import QueryPipeline.Proofs.Filter.ShareCount

/-!
# Shares erased from a compilation

A list of filters compiles with its shares to the same stages as without them, in the same order,
and the windows of the shares between them. What the windows are can be seen from the stages
themselves. Beside the stages, a share leaves one call where it is a finite number and one warning
where it is not; a filter that is dropped leaves nothing, whatever share it asks for.
-/

namespace QueryPipeline

open Number Pipeline

/-- A filter has a condition and asks for a share. -/
def Filter.CarriesShare (filter : Filter) : Prop :=
  (∃ condition, filter.condition = .ok (some condition)) ∧ ∃ share, filter.asksFor share

/-- Whether the share of a filter is ignored: it has a condition, and its share is no finite
number. -/
def Filter.isIgnored (filter : Filter) : Bool :=
  filter.condition.toOption.join.isSome && filter.share.any fun share =>
    share ≠ "" && (readShare? share).isNone

/-- The entry of the log about an ignored share. -/
def Filter.ignoredEntry (filter : Filter) : LogEntry :=
  ⟨.warning, filterLogger, ignoredShareText filter (filter.share.getD "")⟩

namespace Filter

variable {filter : Filter} {condition : Condition} {share : String}

/-- A share is not ignored where there is no condition. -/
theorem isIgnored_of_dropped (made : filter.condition = .ok none) : filter.isIgnored = false := by
  rw [isIgnored, made]
  rfl

/-- A share is not ignored where none is asked for. -/
theorem isIgnored_of_unasked (unasked : ∀ share, ¬filter.asksFor share) :
    filter.isIgnored = false := by
  rw [isIgnored, Bool.and_eq_false_iff]
  refine .inr ?_
  cases given : filter.share with
  | none => rfl
  | some share =>
    have empty : share = "" := Decidable.of_not_not fun some => unasked share ⟨given, some⟩
    rw [empty]
    rfl

/-- A share that is asked for is ignored where it is no finite number. -/
theorem isIgnored_of_asked (made : filter.condition = .ok (some condition))
    (asked : filter.asksFor share) : filter.isIgnored = (readShare? share).isNone := by
  rw [isIgnored, made, asked.1]
  simp [Except.toOption, asked.2]

/-- A share that is asked for is counted where it is a finite number. -/
theorem isCounted_of_asked (made : filter.condition = .ok (some condition))
    (asked : filter.asksFor share) : filter.isCounted = (readShare? share).isSome := by
  rw [isCounted_of_condition made, finiteShare?_of_asked asked]

/-- A filter that carries a share is counted for, or its share is ignored, but not both; any other
filter is neither. -/
theorem counted_or_ignored (filter : Filter) :
    (filter.CarriesShare ∧ filter.isIgnored = !filter.isCounted) ∨
      (¬filter.CarriesShare ∧ filter.isCounted = false ∧ filter.isIgnored = false) := by
  by_cases carries : filter.CarriesShare
  · obtain ⟨⟨condition, made⟩, share, asked⟩ := carries
    refine .inl ⟨⟨⟨condition, made⟩, share, asked⟩, ?_⟩
    rw [isIgnored_of_asked made asked, isCounted_of_asked made asked, Option.not_isSome]
  · refine .inr ⟨carries, ?_⟩
    cases made : filter.condition with
    | error failure =>
      rw [isCounted, isIgnored, made]
      exact ⟨rfl, rfl⟩
    | ok condition? =>
      cases condition? with
      | none => exact ⟨isCounted_of_dropped made, isIgnored_of_dropped made⟩
      | some condition =>
        have unasked : ∀ share, ¬filter.asksFor share :=
          fun share asked => carries ⟨⟨condition, made⟩, share, asked⟩
        rw [isCounted_of_condition made, finiteShare?_of_unasked unasked]
        exact ⟨rfl, isIgnored_of_unasked unasked⟩

end Filter

section

variable {engine : Engine} {collection : String} {pipeline added final : List Stage}
  {filter : Filter} {filters : List Filter} {trace after : Trace}

/-- What a filter adds is what it compiles to without its share, once the window is left out. -/
theorem Added.erased (step : Added engine collection pipeline filter trace (.ok added) after) :
    compile [filter] = .ok (added.filter (!·.isCut)) := by
  rw [compile_singleton]
  cases step with
  | dropped made =>
    rw [made]
    rfl
  | whole made | ignored made =>
    rw [made, List.filter_cons_of_pos (by simp [Filter.isCut_select made])]
    rfl
  | @cut condition share percent total window made asked read counted shared =>
    rw [made, List.filter_cons_of_pos (by simp [Filter.isCut_select made])]
    have none : window.filter (!·.isCut) = [] := List.filter_eq_nil_iff.mpr fun stage mem => by
      simpa using isCut_of_mem_shareStages shared stage mem
    rw [none]
    rfl

/-- Adding a filter notes its share in the log where the share is ignored, and nothing else. -/
theorem Added.log (step : Added engine collection pipeline filter trace (.ok added) after) :
    after.log = trace.log ++ ([filter].filter Filter.isIgnored).map Filter.ignoredEntry := by
  cases step with
  | dropped made => simp [Filter.isIgnored_of_dropped made]
  | whole made unasked => simp [Filter.isIgnored_of_unasked unasked]
  | ignored made asked unread =>
    simp [Filter.isIgnored_of_asked made asked, unread, Trace.noted, Filter.ignoredEntry, asked.1]
  | cut made asked read =>
    simp [Filter.isIgnored_of_asked made asked, read, Trace.sent]

/-- A compilation that succeeds gives what the filters compile to without their shares, once the
windows are left out. -/
theorem Builds.erased (run : Builds engine collection pipeline filters trace (.ok final) after) :
    ∃ more, final = pipeline ++ more ∧ compile filters = .ok (more.filter (!·.isCut)) := by
  generalize given : Except.ok final = result at run
  induction run with
  | done =>
    cases given
    exact ⟨[], by simp, rfl⟩
  | stopped => cases given
  | @next pipeline added filter rest trace between after result step others ih =>
    obtain ⟨more, ending, compiled⟩ := ih given
    refine ⟨added ++ more, by rw [ending, List.append_assoc], ?_⟩
    rw [compile_cons, step.erased, compiled, List.filter_append]
    rfl

/-- A compilation that succeeds notes the shares that are ignored, in order, and nothing else. -/
theorem Builds.log (run : Builds engine collection pipeline filters trace (.ok final) after) :
    after.log = trace.log ++ (filters.filter Filter.isIgnored).map Filter.ignoredEntry := by
  generalize given : Except.ok final = result at run
  induction run with
  | done => simp
  | stopped => cases given
  | @next pipeline added filter rest trace between after result step others ih =>
    rw [ih given, step.log, List.append_assoc, ← List.map_append, ← List.filter_append,
      List.singleton_append]

end

/-- Where no filter asks for a share, a compilation gives what the filters compile to without their
shares, or fails as that does, and it leaves the trace as it is. -/
theorem compileSharesAfter_of_unasked (collection : String) {filters : List Filter}
    (unasked : ∀ filter ∈ filters, ∀ share, ¬filter.asksFor share) (pipeline : List Stage) :
    compileSharesAfter collection pipeline filters =
      Session.ofExcept ((compile filters).map (pipeline ++ ·)) := by
  induction filters generalizing pipeline with
  | nil =>
    rw [compileSharesAfter, compile, Except.map, List.append_nil]
    rfl
  | cons filter rest ih =>
    rw [List.forall_mem_cons] at unasked
    rw [compileSharesAfter, compile]
    cases filter.condition with
    | error failure => rfl
    | ok condition? =>
      rw [Session.ofExcept_ok_bind]
      cases condition? with
      | none =>
        refine (ih unasked.2 pipeline).trans ?_
        cases compile rest <;> rfl
      | some condition =>
        dsimp only
        rw [shareOf_of_unasked unasked.1, pure_bind, List.append_nil, ih unasked.2]
        cases compile rest with
        | error failure => rfl
        | ok stages => exact congrArg (Session.ofExcept <| .ok ·) (List.append_assoc _ _ _)

/-- The two compilations agree. With its shares, a list of filters compiles to the stages that it
compiles to without them and to the windows of its shares, which are all of the outcome that cuts.
There is one call for every filter that is counted for, and it counts the stages of the outcome up
to that filter's condition; there is one warning for every share that is ignored; and nothing else is
sent or noted. Of the two, a filter that carries a share causes exactly one, and any other filter
neither. Where no filter asks for a share, the compilations are one. -/
theorem compilations_agree (engine : Engine) (collection : String) (filters : List Filter) :
    let run := (compileShares collection filters).run engine
    (∀ stages, run.1 = .ok stages → ∃ counts : List ShareCount,
      compile filters = .ok (stages.filter (!·.isCut)) ∧
        stages.filter Stage.isCut = counts.flatMap (·.window) ∧
        run.2.calls = counts.map (ShareCount.call collection) ∧
        counts.map (·.filter) = filters.filter Filter.isCounted ∧
        (∀ count ∈ counts, count.IsMadeFor filters ∧ count.stages <+: stages) ∧
        run.2.log = (filters.filter Filter.isIgnored).map Filter.ignoredEntry) ∧
      (∀ filter ∈ filters, (filter.CarriesShare ∧ filter.isIgnored = !filter.isCounted) ∨
        (¬filter.CarriesShare ∧ filter.isCounted = false ∧ filter.isIgnored = false)) ∧
      ((∀ filter ∈ filters, ∀ share, ¬filter.asksFor share) → run = (compile filters, .empty)) := by
  intro run
  have builds := compileSharesAfter_builds engine collection filters [] .empty
  refine ⟨fun stages compiled => ?_, fun filter _ => filter.counted_or_ignored, fun unasked => ?_⟩
  · rw [show (compileSharesAfter collection [] filters engine .empty).1 = .ok stages from compiled]
      at builds
    obtain ⟨counts, more, ending, sent, owners, -, made, cuts⟩ := builds.counts_cut
    obtain ⟨others, same, compiles⟩ := builds.erased
    rw [List.nil_append] at ending same
    subst ending same
    exact ⟨counts, compiles, cuts, sent, owners, made, builds.log⟩
  · change compileSharesAfter collection [] filters engine .empty = _
    rw [compileSharesAfter_of_unasked collection unasked]
    cases compile filters <;> rfl

/-- Filters of all kinds: one with a share from the back, one whose share is no number, one that is
dropped with its share, and one on a field that is named like an operator, with an empty share. -/
def mixedFilters : List Filter :=
  ["price|amount|gt|0|-50", "status|string|eq|sold|half", "price|amount|has|1|10",
    "$expr|string|eq|false|0"].map Filter.read

/-- An engine that counts ten documents, and then five. -/
def tenThenFive : Engine :=
  .scripted [.rows [.object [("total", .int 10)]], .rows [.object [("total", .int 5)]]]

/-- Filters of all kinds compile to three stages, and with their shares to six; two of them are
counted for, and one share is ignored. -/
theorem mixed_compilations_agree :
    let run := (compileShares "products" mixedFilters).run tenThenFive
    ∃ stages, run.1 = .ok stages ∧ stages.length = 6 ∧
      compile mixedFilters = .ok (stages.filter (!·.isCut)) ∧
      (stages.filter (!·.isCut)).length = 3 ∧
      ∃ counts : List ShareCount, run.2.calls = counts.map (ShareCount.call "products") ∧
        counts.length = 2 ∧
        run.2.log = [⟨.warning, "UrlQuery", "percentOfResult 'half' on status ignored"⟩] := by
  have told : ((compileShares "products" mixedFilters).run tenThenFive).1.toOption.map
      (fun stages => (stages.length, (stages.filter (!·.isCut)).length)) = some (6, 3) := by
    decide +kernel
  have sent : ((compileShares "products" mixedFilters).run tenThenFive).2.calls.length = 2 := by
    decide +kernel
  obtain ⟨stages, found, same⟩ := Option.map_eq_some_iff.mp told
  obtain ⟨whole, uncut⟩ := Prod.mk.inj same
  have compiled := eq_ok_of_toOption found
  obtain ⟨counts, erased, -, calls, -, -, -⟩ :=
    (compilations_agree tenThenFive "products" mixedFilters).1 stages compiled
  rw [calls, List.length_map] at sent
  exact ⟨stages, compiled, whole, erased, uncut, counts, calls, sent, by decide +kernel⟩

end QueryPipeline
