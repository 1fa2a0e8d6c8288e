import QueryPipeline.Proofs.Filter.Condition
import QueryPipeline.Proofs.Filter.Share

/-!
# Counts for shares

A compilation that succeeds has counted once for every share. The counts are kept in order, each
with the stages that were counted, what was answered and the window that it led to. The counted
stages and the window of one count are where the next count starts. The windows of the counts are
all that the shares add to the stages of the filters.
-/

namespace QueryPipeline

open Number Pipeline

/-- A count that a compilation made and the window that it led to. -/
structure ShareCount where
  /-- The filter that asks for a share. -/
  filter : Filter
  /-- The share. -/
  percent : Binary64
  /-- The stages whose documents are counted. -/
  counted : List Stage
  /-- The count. -/
  total : Int
  /-- The stages that cut out the share. -/
  window : List Stage

namespace ShareCount

/-- The call that counts. -/
def call (collection : String) (count : ShareCount) : Call := .counting collection count.counted

/-- The counted stages and the window after them. -/
def stages (count : ShareCount) : List Stage := count.counted ++ count.window

/-- A count is made for one of the filters, after that filter's condition, and its window is the
share of what was counted. -/
structure IsMadeFor (filters : List Filter) (count : ShareCount) : Prop where
  /-- The filter is one of them. -/
  mem : count.filter ∈ filters
  /-- The filter asks for the share. -/
  asked : ∃ share, count.filter.asksFor share ∧ readShare? share = some count.percent
  /-- The last counted stage is the condition of the filter. -/
  counted : ∃ condition, count.filter.condition = .ok (some condition) ∧
    count.counted.getLast? = some (.select condition)
  /-- The window is the share. -/
  shared : shareStages count.total count.percent = .ok count.window

/-- The totals of counts that follow one another are what an engine answers to their calls. -/
def Answered (engine : Engine) (collection : String) (earlier : List Call)
    (counts : List ShareCount) : Prop :=
  ∀ before count after, counts = before ++ count :: after →
    engine.total (earlier ++ before.map (call collection)) (count.call collection) =
      .ok count.total

/-- No count is answered without an answer. -/
theorem answered_nil (engine : Engine) (collection : String) (earlier : List Call) :
    Answered engine collection earlier [] := by
  intro before count after split
  simp at split

/-- Counts are answered one after another. -/
theorem answered_cons {engine : Engine} {collection : String} {earlier : List Call}
    {count : ShareCount} {counts : List ShareCount}
    (first : engine.total earlier (count.call collection) = .ok count.total)
    (others : Answered engine collection (earlier ++ [count.call collection]) counts) :
    Answered engine collection earlier (count :: counts) := by
  intro before found after split
  cases before with
  | nil =>
    obtain ⟨rfl, -⟩ := List.cons.inj split
    simpa using first
  | cons head tail =>
    obtain ⟨rfl, rest⟩ := List.cons.inj split
    have answer := others tail found after rest
    simpa using answer

/-- A count that is made for some filters is made for more filters. -/
theorem IsMadeFor.tail {filter : Filter} {filters : List Filter} {count : ShareCount}
    (made : count.IsMadeFor filters) : count.IsMadeFor (filter :: filters) :=
  { made with mem := List.mem_cons_of_mem filter made.mem }

end ShareCount

/-- The share that a filter asks for, if it is a finite number. -/
def Filter.finiteShare? (filter : Filter) : Option Binary64 :=
  filter.share.bind fun share => if share = "" then none else readShare? share

/-- Whether a filter is counted for: it has a condition, and its share is a finite number. -/
def Filter.isCounted (filter : Filter) : Bool :=
  filter.condition.toOption.join.isSome && filter.finiteShare?.isSome

/-- The share that is asked for is read. -/
theorem Filter.finiteShare?_of_asked {filter : Filter} {share : String}
    (asked : filter.asksFor share) : filter.finiteShare? = readShare? share := by
  rw [finiteShare?, asked.1, Option.bind_some, if_neg asked.2]

/-- No share is read where none is asked for. -/
theorem Filter.finiteShare?_of_unasked {filter : Filter}
    (unasked : ∀ share, ¬filter.asksFor share) : filter.finiteShare? = none := by
  rw [finiteShare?]
  cases given : filter.share with
  | none => rfl
  | some share =>
    by_cases empty : share = ""
    · exact if_pos empty
    · exact absurd ⟨given, empty⟩ (unasked share)

/-- A filter that has no condition is not counted for. -/
theorem Filter.isCounted_of_dropped {filter : Filter} (made : filter.condition = .ok none) :
    filter.isCounted = false := by
  rw [isCounted, made]
  rfl

/-- A filter that has a condition is counted for where its share is a finite number. -/
theorem Filter.isCounted_of_condition {filter : Filter} {condition : Condition}
    (made : filter.condition = .ok (some condition)) :
    filter.isCounted = filter.finiteShare?.isSome := by
  rw [isCounted, made]
  rfl

/-- The condition of a filter does not cut. -/
theorem Filter.isCut_select {filter : Filter} {condition : Condition}
    (made : filter.condition = .ok (some condition)) : (Stage.select condition).isCut = false := by
  obtain ⟨field, -, on⟩ := Filter.isOn_of_condition made
  exact on.isCut_select

/-- All of the window of a share cuts. -/
theorem isCut_of_mem_shareStages {total : Int} {percent : Binary64} {window : List Stage}
    (shared : shareStages total percent = .ok window) : ∀ stage ∈ window, stage.isCut = true := by
  intro stage mem
  obtain ⟨-, rfl⟩ | ⟨-, size, -, rfl⟩ := shareStages_eq_ok shared
  · cases mem
  · obtain rfl | ⟨rfl, -⟩ | rfl := mem_windowStages mem <;> rfl

/-- What a filter adds succeeds without a count and without a window, or with a count whose stages
are all that is there afterwards and whose window is all that cuts. -/
theorem Added.count {engine : Engine} {collection : String} {pipeline added : List Stage}
    {filter : Filter} {trace after : Trace}
    (step : Added engine collection pipeline filter trace (.ok added) after) :
    (after.calls = trace.calls ∧ filter.isCounted = false ∧ added.filter Stage.isCut = []) ∨
      (filter.isCounted = true ∧ ∃ count : ShareCount, count.filter = filter ∧
        after.calls = trace.calls ++ [count.call collection] ∧
        engine.total trace.calls (count.call collection) = .ok count.total ∧
        count.IsMadeFor [filter] ∧ count.stages = pipeline ++ added ∧
        added.filter Stage.isCut = count.window) := by
  cases step with
  | dropped made => exact .inl ⟨rfl, Filter.isCounted_of_dropped made, rfl⟩
  | whole made unasked =>
    rw [Filter.isCounted_of_condition made, Filter.finiteShare?_of_unasked unasked]
    exact .inl ⟨rfl, rfl, by simp [Filter.isCut_select made]⟩
  | ignored made asked unread =>
    rw [Filter.isCounted_of_condition made, Filter.finiteShare?_of_asked asked, unread]
    exact .inl ⟨rfl, rfl, by simp [Filter.isCut_select made]⟩
  | @cut condition share percent total window made asked read counted shared =>
    let count : ShareCount := ⟨filter, percent, pipeline ++ [.select condition], total, window⟩
    have cuts : (.select condition :: window).filter Stage.isCut = window := by
      rw [List.filter_cons_of_neg (by simp [Filter.isCut_select made])]
      exact List.filter_eq_self.mpr (isCut_of_mem_shareStages shared)
    rw [Filter.isCounted_of_condition made, Filter.finiteShare?_of_asked asked, read]
    refine .inr ⟨rfl, count, rfl, rfl, counted, ?_, by simp [count, ShareCount.stages], cuts⟩
    exact
      { mem := List.mem_singleton_self filter
        asked := ⟨share, asked, read⟩
        counted := ⟨condition, made, List.getLast?_concat⟩
        shared }

/-- A compilation that succeeds has sent one count for every filter that is counted for, in order,
each of the first stages of its outcome, with the window of the share directly after them. These
windows are all of the outcome that cuts. -/
theorem Builds.counts_cut {engine : Engine} {collection : String} {pipeline final : List Stage}
    {filters : List Filter} {trace after : Trace}
    (run : Builds engine collection pipeline filters trace (.ok final) after) :
    ∃ (counts : List ShareCount) (more : List Stage), final = pipeline ++ more ∧
      after.calls = trace.calls ++ counts.map (ShareCount.call collection) ∧
      counts.map (·.filter) = filters.filter Filter.isCounted ∧
      ShareCount.Answered engine collection trace.calls counts ∧
      (∀ count ∈ counts, count.IsMadeFor filters ∧ count.stages <+: final) ∧
      more.filter Stage.isCut = counts.flatMap (·.window) := by
  generalize given : Except.ok final = result at run
  induction run with
  | done =>
    cases given
    exact ⟨[], [], by simp, by simp, rfl, ShareCount.answered_nil _ _ _, by simp, rfl⟩
  | stopped => cases given
  | @next pipeline added filter rest trace between after result step others ih =>
    subst given
    obtain ⟨later, more, ending, sent, owners, answered, counts, cuts⟩ := ih rfl
    have tails : ∀ count ∈ later, count.IsMadeFor (filter :: rest) ∧ count.stages <+: final :=
      fun count mem => ⟨(counts count mem).1.tail, (counts count mem).2⟩
    rw [List.append_assoc] at ending
    obtain ⟨none, uncounted, uncut⟩ | ⟨counted, count, owner, first, answer, made, stages, cut⟩ :=
      step.count
    · rw [none] at sent answered
      rw [List.filter_cons_of_neg (by simp [uncounted])]
      refine ⟨later, added ++ more, ending, sent, owners, answered, tails, ?_⟩
      rw [List.filter_append, uncut, cuts, List.nil_append]
    · rw [first] at sent answered
      rw [List.filter_cons_of_pos counted]
      refine ⟨count :: later, added ++ more, ending, by simpa using sent,
        by rw [List.map_cons, owner, owners], ShareCount.answered_cons answer answered, ?_, ?_⟩
      · intro found mem
        obtain rfl | inside := List.mem_cons.mp mem
        · refine ⟨{ made with mem := ?_ }, ?_⟩
          · rw [List.mem_singleton.mp made.mem]
            exact List.mem_cons_self
          · rw [stages, ending, ← List.append_assoc]
            exact List.prefix_append _ _
        · exact tails found inside
      · rw [List.filter_append, cut, cuts, List.flatMap_cons]

/-- The counts of a compilation that succeeds, whatever their windows are. -/
theorem Builds.counts {engine : Engine} {collection : String} {pipeline final : List Stage}
    {filters : List Filter} {trace after : Trace}
    (run : Builds engine collection pipeline filters trace (.ok final) after) :
    ∃ counts : List ShareCount,
      after.calls = trace.calls ++ counts.map (ShareCount.call collection) ∧
        counts.map (·.filter) = filters.filter Filter.isCounted ∧
        ShareCount.Answered engine collection trace.calls counts ∧
        ∀ count ∈ counts, count.IsMadeFor filters ∧ count.stages <+: final := by
  obtain ⟨counts, more, -, sent, owners, answered, made, -⟩ := run.counts_cut
  exact ⟨counts, sent, owners, answered, made⟩

end QueryPipeline
