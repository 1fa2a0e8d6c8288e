import QueryPipeline.Proofs.Fetch.Agreement
import QueryPipeline.Proofs.Filter.ShareRange

/-!
# Windows of pages and shares within range

A page leaves out no negative number of documents, whatever a request asks for, and its size is
positive where it is cut out at all. Whether the windows of shares are in range too depends on what
is counted: they are exactly where all shares fit. Shares of up to `2 ^ 53 / 100` documents fit from
minus a hundred percent on; a share beyond that, counted from the back, starts before the first
document, and one beyond the finite numbers makes the request fail.
-/

namespace QueryPipeline

open Document Number Pipeline Url

/-- The failures of a list that no share has a part in. -/
inductive ListFault (engine : Engine) (collection : String) (request : Request) (options : Options)
    (initial final : List Stage) (failure : Failure) : Prop
  /-- The request has no parameters. -/
  | request (unread : request.parameters = .error failure) :
      ListFault engine collection request options initial final failure
  /-- The filters cannot be compiled. -/
  | compilation {parameters : Parameters} (read : request.parameters = .ok parameters)
      (fault : CompilationFault engine collection (parameters.confined options) failure) :
      ListFault engine collection request options initial final failure
  /-- The documents cannot be counted. -/
  | count {earlier : List Call} {counted : List Stage}
      (failed : engine.total earlier (.counting collection counted) = .error failure) :
      ListFault engine collection request options initial final failure
  /-- A stage of the caller, a condition or a stage of the page cannot be written. -/
  | unwritten {parameters : Parameters} {stage : Stage}
      (read : request.parameters = .ok parameters)
      (source : stage ∈ initial ∨ stage ∈ final ∨ (∃ condition, stage = .select condition) ∨
        stage ∈ pageStages (.ofParameters parameters options))
      (unwritable : canBeWritten [stage] = false) (same : failure = .unwritableInteger) :
      ListFault engine collection request options initial final failure
  /-- The engine fails on the page. -/
  | rows {earlier : List Call} {paged : List Stage}
      (failed : engine.rows earlier (.fetching collection paged) = .error failure) :
      ListFault engine collection request options initial final failure
  /-- No page can be made of the count and the rows. -/
  | page {parameters : Parameters} {total : Int} {items : List Value}
      (read : request.parameters = .ok parameters)
      (unmade : makePage (.ofParameters parameters options) total items = .error failure) :
      ListFault engine collection request options initial final failure

/-- The page of a request is at least the first. -/
theorem PageRequest.one_le_page (parameters : Parameters) (options : Options) :
    1 ≤ (PageRequest.ofParameters parameters options).page :=
  le_max_right _ _

/-- The window of a page is in range. -/
theorem inRange_pageStages (parameters : Parameters) (options : Options) :
    ∀ stage ∈ pageStages (.ofParameters parameters options), stage.InRange := by
  rw [pageStages_eq]
  split
  · exact List.forall_mem_nil _
  · next paged =>
    have sized : 1 ≤ (PageRequest.ofParameters parameters options).limit := by omega
    have first := PageRequest.one_le_page parameters options
    rw [List.forall_mem_cons, List.forall_mem_singleton, Stage.inRange_skip_iff,
      Stage.inRange_limit_iff]
    exact ⟨Int.mul_nonneg (by omega) (by omega), sized⟩

/-- Where the stages of a list come from: from the caller, from its filters, or from the page. -/
theorem mem_pagePipeline {parameters : Parameters} {options : Options}
    {initial selected final : List Stage} {stage : Stage}
    (mem : stage ∈ pagePipeline (.ofParameters parameters options) options (initial ++ selected)
      final) :
    stage ∈ initial ∨ stage ∈ final ∨ stage ∈ selected ∨
      stage = sortStage (.ofParameters parameters options) options ∨
        stage ∈ pageStages (.ofParameters parameters options) := by
  rw [pagePipeline] at mem
  simp only [List.mem_append] at mem
  obtain (((first | filtered) | sorted) | last) | paged := mem
  · exact .inl first
  · exact .inr (.inr (.inl filtered))
  · split at sorted
    · cases sorted
    · exact .inr (.inr (.inr (.inl (List.mem_singleton.mp sorted))))
  · exact .inr (.inl last)
  · exact .inr (.inr (.inr (.inr paged)))

/-- The stages of a list that are not the caller's are in range where its filters are fitting. -/
theorem inRange_pagePipeline {parameters : Parameters} {options : Options}
    {initial selected final : List Stage} (fitting : ∀ stage ∈ selected, stage.IsFitting) :
    ∀ stage ∈ pagePipeline (.ofParameters parameters options) options (initial ++ selected) final,
      stage ∈ initial ∨ stage ∈ final ∨ stage.InRange := by
  intro stage mem
  obtain first | last | filtered | rfl | paged := mem_pagePipeline mem
  · exact .inl first
  · exact .inr (.inl last)
  · exact .inr (.inr (fitting stage filtered).inRange)
  · exact .inr (.inr (Stage.inRange_sort _ _))
  · exact .inr (.inr (inRange_pageStages parameters options stage paged))

/-- The stages that a list counts are the caller's or in range where its filters are fitting. -/
theorem inRange_counting {collection : String} {initial selected final : List Stage}
    (fitting : ∀ stage ∈ selected, stage.IsFitting) :
    ∀ stage ∈ (Call.counting collection (initial ++ selected)).pipeline,
      stage ∈ initial ∨ stage ∈ final ∨ stage.InRange := by
  refine List.forall_mem_append.mpr ⟨List.forall_mem_append.mpr ⟨fun _ => .inl, ?_⟩,
    List.forall_mem_singleton.mpr (.inr (.inr (Stage.inRange_count _)))⟩
  exact fun stage mem => .inr (.inr (fitting stage mem).inRange)

/-- A list whose filters are fitting cannot be written only for a stage that no share has made. -/
theorem unwritable_pagePipeline {parameters : Parameters} {options : Options}
    {initial selected final : List Stage} (fitting : ∀ stage ∈ selected, stage.IsFitting)
    (unwritable : canBeWritten (pagePipeline (.ofParameters parameters options) options
      (initial ++ selected) final) = false) :
    ∃ stage, (stage ∈ initial ∨ stage ∈ final ∨ (∃ condition, stage = .select condition) ∨
      stage ∈ pageStages (.ofParameters parameters options)) ∧
        canBeWritten [stage] = false := by
  obtain ⟨stage, mem, refused⟩ := canBeWritten_eq_false_iff.mp unwritable
  obtain first | last | filtered | rfl | paged := mem_pagePipeline mem
  · exact ⟨stage, .inl first, refused⟩
  · exact ⟨stage, .inr (.inl last), refused⟩
  · obtain condition | writable := (fitting stage filtered).written
    · exact ⟨stage, .inr (.inr (.inl condition)), refused⟩
    · exact absurd writable (Bool.eq_false_iff.mp refused)
  · exact absurd (canBeWritten_sort _ _) (Bool.eq_false_iff.mp refused)
  · exact ⟨stage, .inr (.inr (.inr paged)), refused⟩

/-- A page that is not fetched fails for the count, for a number that cannot be written, for the
engine or for what the page would be made of. -/
theorem Fetched.fault {engine : Engine} {collection : String} {page : PageRequest}
    {counted paged : List Stage} {what : String} {trace after : Trace} {failure : Failure}
    (step : Fetched engine collection page counted paged what trace (.error failure) after) :
    (∃ earlier, engine.total earlier (.counting collection counted) = .error failure) ∨
      (canBeWritten paged = false ∧ failure = .unwritableInteger) ∨
        (∃ earlier, engine.rows earlier (.fetching collection paged) = .error failure) ∨
          ∃ total items, makePage page total items = .error failure := by
  generalize outcome : Except.error failure = result at step
  cases step with
  | uncounted failed =>
    cases outcome
    exact .inl ⟨_, failed⟩
  | unwritten asked count unwritable =>
    cases outcome
    exact .inr (.inl ⟨unwritable, rfl⟩)
  | unanswered asked count writable failed =>
    cases outcome
    exact .inr (.inr (.inl ⟨_, failed⟩))
  | countOnly | fetched => exact .inr (.inr (.inr ⟨_, _, rfl⟩))

/-- A list whose shares all fit: every stage that is sent for it is the caller's or in range, and it
fails only for something that no share has a part in. -/
theorem fetchList_inRange {engine : Engine} {collection : String} {request : Request}
    {options : Options} {initial final : List Stage} (counts : engine.CountsUp)
    (fit : ∀ parameters, request.parameters = .ok parameters →
      SharesFit engine collection (parameters.confined options)) :
    (∀ call ∈ ((fetchList collection request options initial final).run engine).2.calls,
        ∀ stage ∈ call.pipeline, stage ∈ initial ∨ stage ∈ final ∨ stage.InRange) ∧
      ∀ failure, ((fetchList collection request options initial final).run engine).1 =
          .error failure →
        ListFault engine collection request options initial final failure := by
  have run := fetchList_cases engine collection request options initial final
  generalize ((fetchList collection request options initial final).run engine).2 = after at run ⊢
  generalize ((fetchList collection request options initial final).run engine).1 = result at run ⊢
  cases run with
  | unread unread =>
    refine ⟨by simp, fun failure same => ?_⟩
    cases same
    exact .request unread
  | uncompiled read run =>
    obtain ⟨⟨calls, sent, inRange⟩, -, fault⟩ :=
      run.isFitting counts (List.forall_mem_nil _) (fit _ read)
    rw [Trace.calls_empty, List.nil_append] at sent
    refine ⟨fun call mem stage inside => ?_, fun failure same => ?_⟩
    · rw [sent] at mem
      exact .inr (.inr (inRange call mem stage inside))
    · cases same
      exact .compilation read (fault _ rfl)
  | @compiled parameters selected between _ _ read run page =>
    obtain ⟨⟨calls, sent, inRange⟩, outcome, -⟩ :=
      run.isFitting counts (List.forall_mem_nil _) (fit _ read)
    have fitting := outcome selected rfl
    rw [Trace.calls_empty, List.nil_append] at sent
    refine ⟨?_, fun failure same => ?_⟩
    · have shares : ∀ call ∈ calls, ∀ stage ∈ call.pipeline,
          stage ∈ initial ∨ stage ∈ final ∨ stage.InRange :=
        fun call mem stage inside => .inr (.inr (inRange call mem stage inside))
      have count : ∀ stage ∈ (Call.counting collection (initial ++ selected)).pipeline,
          stage ∈ initial ∨ stage ∈ final ∨ stage.InRange :=
        inRange_counting fitting
      have paged : ∀ stage ∈ (Call.fetching collection (pagePipeline
          (.ofParameters parameters options) options (initial ++ selected) final)).pipeline,
          stage ∈ initial ∨ stage ∈ final ∨ stage.InRange :=
        inRange_pagePipeline fitting
      obtain same | same := page.calls
      · rw [same, sent]
        exact List.forall_mem_append.mpr ⟨shares, List.forall_mem_singleton.mpr count⟩
      · rw [same, sent]
        exact List.forall_mem_append.mpr ⟨shares, List.forall_mem_cons.mpr
          ⟨count, List.forall_mem_singleton.mpr paged⟩⟩
    · subst same
      obtain ⟨_, failed⟩ | ⟨unwritable, same⟩ | ⟨_, failed⟩ | ⟨_, _, unmade⟩ := page.fault
      · exact .count failed
      · obtain ⟨stage, source, refused⟩ := unwritable_pagePipeline fitting unwritable
        exact .unwritten read source refused same
      · exact .rows failed
      · exact .page read unmade

/-- Where the windows of shares and pages are in range, with an engine that counts no negative
number of documents. While all shares of some filters fit, every stage that is sent to count for
them is in range, and they fail only for a condition or a count; the outcome is in range exactly
where all shares fit; and a share that cannot be told makes them fail. While the shares of a list
fit, every stage that is sent for it is the caller's or in range, and it fails only for something
that no share has a part in. Shares of up to `2 ^ 53 / 100` documents fit from minus a hundred
percent on, unless their product with the total is beyond the finite numbers. A share from the back
of more than there is does not fit, and one whose product is infinite cannot be told. -/
theorem windows_in_range {engine : Engine} (counts : engine.CountsUp) (collection : String) :
    (∀ filters,
      let run := (compileShares collection filters).run engine
      (SharesFit engine collection filters →
        (∀ call ∈ run.2.calls, ∀ stage ∈ call.pipeline, stage.InRange) ∧
          ∀ failure, run.1 = .error failure →
            CompilationFault engine collection filters failure) ∧
        (∀ selected, run.1 = .ok selected →
          ((∀ stage ∈ selected, stage.InRange) ↔ SharesFit engine collection filters)) ∧
        ∀ total percent failure,
          TakesShare engine collection [] filters .empty total percent →
            shareStages total percent = .error failure → run.1 = .error failure) ∧
      (∀ request options initial final,
        let run := (fetchList collection request options initial final).run engine
        (∀ parameters, request.parameters = .ok parameters →
          SharesFit engine collection (parameters.confined options)) →
          (∀ call ∈ run.2.calls, ∀ stage ∈ call.pipeline,
            stage ∈ initial ∨ stage ∈ final ∨ stage.InRange) ∧
            ∀ failure, run.1 = .error failure →
              ListFault engine collection request options initial final failure) ∧
      (∀ (total units : Nat) (negative : Bool), 100 * total ≤ 2 ^ 53 →
        total * units ≤ Binary64.greatest → (negative = true → units ≤ 100 * Binary64.one) →
          ShareFits total (.finite negative units)) ∧
      (∀ total units : Nat, 0 < total → 100 * (total + 1) ≤ 2 ^ 53 →
        100 * (total + 1) * Binary64.one ≤ total * units →
          ¬ShareFits total (.finite true units)) ∧
      ∀ (total units : Nat) (negative : Bool), 0 < total → total ≤ 2 ^ 53 →
        Binary64.overflow ≤ total * units →
          shareStages total (.finite negative units) = .error .infinityToInteger := by
  refine ⟨fun filters => ⟨fun fit => ?_, fun selected => compileShares_inRange_iff counts, ?_⟩,
    fun request options initial final => fetchList_inRange counts,
    fun total units negative => shareFits_of_le, fun total units => not_shareFits_of_gt,
    fun total units negative => shareStages_of_overflow⟩
  · have run := compileSharesAfter_builds engine collection filters [] .empty
    obtain ⟨⟨calls, sent, inRange⟩, -, fault⟩ :=
      run.isFitting counts (List.forall_mem_nil _) fit
    rw [Trace.calls_empty, List.nil_append] at sent
    exact ⟨fun call mem => inRange call (sent ▸ mem), fault⟩
  · intro total percent failure taken untold
    obtain ⟨other, told, failed⟩ | ⟨window, told, -⟩ := taken.outcome
    · exact Except.error.inj (untold.symm.trans told) ▸ failed
    · exact nomatch untold.symm.trans told

/-- An engine that counts ten documents whatever it is asked. -/
def tenEachEngine : Engine := fun _ _ => .rows [.object [("total", .int 10)]]

/-- Ten documents are counted each time. -/
theorem tenEachEngine_total {earlier : List Call} {collection : String} {pipeline : List Stage}
    {total : Int}
    (counted : tenEachEngine.total earlier (.counting collection pipeline) = .ok total) :
    total = 10 := by
  obtain ⟨rows, answered, told⟩ := Engine.total_counting_eq_ok counted
  cases answered
  cases told
  rfl

/-- Ten documents are no negative number. -/
theorem tenEachEngine_countsUp : tenEachEngine.CountsUp := by
  intro earlier collection pipeline total counted
  rw [tenEachEngine_total counted]
  decide

/-- The filter for the last half of what costs something. -/
def halfFilter : Filter := Filter.read "price|amount|gt|0|-50"

/-- A request for the last half of what costs something. -/
def halfRequest : Request := .written "/items?filter=price|amount|gt|0|-50"

/-- The last half of ten documents is taken within range, by itself and for a page: five documents
are left out. -/
theorem last_half_in_range :
    tenEachEngine.CountsUp ∧
      (∃ selected,
        ((compileShares "products" [halfFilter]).run tenEachEngine).1 = .ok selected ∧
          ∀ stage ∈ selected, stage.InRange) ∧
      ((fetchList "products" halfRequest .default [] []).run tenEachEngine).2.calls.length = 3 ∧
      ∀ call ∈ ((fetchList "products" halfRequest .default [] []).run tenEachEngine).2.calls,
        ∀ stage ∈ call.pipeline, stage.InRange := by
  obtain ⟨compiles, lists, fits, -⟩ := windows_in_range tenEachEngine_countsUp "products"
  obtain ⟨units, half, part, bounded⟩ : ∃ units,
      halfFilter.finiteShare? = some (.finite true units) ∧ units ≤ 100 * Binary64.one ∧
        10 * units ≤ Binary64.greatest :=
    ⟨50 * Binary64.one, by decide +kernel, by decide +kernel, by decide +kernel⟩
  have fit : SharesFit tenEachEngine "products" [halfFilter] := by
    intro total percent taken
    obtain ⟨split, before, made, asked, counted⟩ := taken
    have inside : ∀ filter ∈ [halfFilter],
        filter.finiteShare? = some (.finite true units) := List.forall_mem_singleton.mpr half
    rw [split] at inside
    rw [inside _ (List.mem_append_right _ List.mem_cons_self)] at asked
    cases asked
    rw [tenEachEngine_total counted]
    exact fits 10 units true (by decide) bounded fun _ => part
  have succeeds : ((compileShares "products" [halfFilter]).run
      tenEachEngine).1.toOption.isSome := by decide +kernel
  obtain ⟨selected, found⟩ := Option.isSome_iff_exists.mp succeeds
  have compiled := eq_ok_of_toOption found
  have filters : (halfRequest.parameters.toOption.map (·.confined .default)) =
      some [halfFilter] := by decide +kernel
  have confined : ∀ parameters, halfRequest.parameters = .ok parameters →
      SharesFit tenEachEngine "products" (parameters.confined .default) := by
    intro parameters read
    rw [read] at filters
    have same : parameters.confined .default = [halfFilter] := Option.some.inj filters
    rw [same]
    exact fit
  have range := ((compiles _).2.1 selected compiled).mpr fit
  refine ⟨tenEachEngine_countsUp, ⟨selected, compiled, range⟩, by decide +kernel,
    fun call mem stage inside => ?_⟩
  obtain ⟨⟨⟩⟩ | ⟨⟨⟩⟩ | inRange :=
    (lists halfRequest .default [] [] confined).1 call mem stage inside
  exact inRange

/-- The number of documents that a stage leaves out. -/
def Pipeline.Stage.leftOut? : Stage → Option Int
  | .skip number => some number
  | _ => none

/-- A pipeline whose stages leave out some number of documents has a stage that does so. -/
theorem skip_mem_of_leftOut {pipeline : List Stage} {number : Int}
    (leaves : number ∈ pipeline.filterMap Stage.leftOut?) : .skip number ∈ pipeline := by
  obtain ⟨stage, mem, leaves⟩ := List.mem_filterMap.mp leaves
  cases stage with
  | skip other =>
    cases leaves
    exact mem
  | _ => cases leaves

/-- A filter for a share of what costs something. -/
def shareFilter (percent : String) : Filter := Filter.read ("price|amount|gt|0|" ++ percent)

/-- Shares of ten documents that do not fit. The last two hundred percent leave out minus ten
documents, in the outcome and in the calls for a page, and a finite percentage beyond all products
makes the compilation fail. -/
theorem windows_out_of_range :
    tenEachEngine.CountsUp ∧
      (∃ selected,
        ((compileShares "products" [shareFilter "-200"]).run tenEachEngine).1 = .ok selected ∧
          .skip (-10) ∈ selected) ∧
      (∃ call ∈ ((fetchList "products" (.written "/items?filter=price|amount|gt|0|-200") .default
        [] []).run tenEachEngine).2.calls, .skip (-10) ∈ call.pipeline) ∧
      ¬(Stage.skip (-10)).InRange ∧
      ((compileShares "products" [shareFilter "1e308"]).run tenEachEngine).1 =
        .error .infinityToInteger := by
  refine ⟨tenEachEngine_countsUp, ?_, ?_, ?_, eq_error_of_failure? (by decide +kernel)⟩
  · have leaves : (((compileShares "products" [shareFilter "-200"]).run
        tenEachEngine).1.toOption.map (·.filterMap Stage.leftOut?)) = some [-10] := by
      decide +kernel
    obtain ⟨selected, found, left⟩ := Option.map_eq_some_iff.mp leaves
    exact ⟨selected, eq_ok_of_toOption found, skip_mem_of_leftOut (by rw [left]; simp)⟩
  · have leaves : [-10] ∈ ((fetchList "products" (.written "/items?filter=price|amount|gt|0|-200")
        .default [] []).run tenEachEngine).2.calls.map (·.pipeline.filterMap Stage.leftOut?) := by
      decide +kernel
    obtain ⟨call, mem, left⟩ := List.mem_map.mp leaves
    exact ⟨call, mem, skip_mem_of_leftOut (by rw [left]; simp)⟩
  · rw [Stage.inRange_skip_iff]
    decide

end QueryPipeline
