import QueryPipeline.Proofs.Fetch.Range
import QueryPipeline.Proofs.Filter.Encoding

/-!
# Whole numbers in the calls of a fetch

What the library puts into its calls can be encoded up to three kinds of numbers that a client
chooses: the number of an identifier, the size of a share, and how much comes before a page. The
size of a page never is one of them. Where all of these are small enough, so is everything that is
sent; where one of them is not, it is sent all the same.
-/

namespace QueryPipeline

open Document Number Pipeline Text Url

/-- A request for a page whose window, if there is one, starts at a number that can be encoded. -/
def PageRequest.IsEncodable (request : PageRequest) : Prop :=
  request.isPaged = true → request.skip < 2 ^ 63

/-- Whether some calls fetch a page: the call for it is the only one without a bound. -/
def FetchesPage (calls : List Call) : Prop := ∃ call ∈ calls, call.length = none

section

variable {options : Options} {parameters : Parameters} (most : options.limit < 2 ^ 63)

include most

/-- The window of a page can be encoded exactly where its start can be: its size always can. -/
theorem isEncodable_pageStages_iff :
    (∀ stage ∈ pageStages (.ofParameters parameters options), stage.IsEncodable) ↔
      (PageRequest.ofParameters parameters options).IsEncodable := by
  rw [pageStages, PageRequest.IsEncodable]
  cases paged : (PageRequest.ofParameters parameters options).isPaged with
  | false => simp
  | true =>
    have sized : 0 < (PageRequest.ofParameters parameters options).limit :=
      of_decide_eq_true (Bool.and_eq_true_iff.mp paged).2
    have capped : (PageRequest.ofParameters parameters options).limit ≤ options.limit :=
      min_le_right _ _
    have first := PageRequest.one_le_page parameters options
    have start : 0 ≤ (PageRequest.ofParameters parameters options).skip :=
      Int.mul_nonneg (by omega) sized.le
    rw [if_pos rfl, List.forall_mem_cons, List.forall_mem_singleton, Stage.isEncodable_skip_iff,
      Stage.isEncodable_limit_iff, IsEncodable, IsEncodable, forall_prop_of_true rfl]
    omega

/-- The pipeline of a page of a list can be encoded exactly where the stages of its filters and its
window can be. -/
theorem isEncodable_pagePipeline_iff {initial selected final : List Stage}
    (before : AreGiven initial) (after : AreGiven final) :
    (∀ stage ∈ pagePipeline (.ofParameters parameters options) options (initial ++ selected) final,
      stage.IsEncodable) ↔
      (∀ stage ∈ selected, stage.IsEncodable) ∧
        (PageRequest.ofParameters parameters options).IsEncodable := by
  have sorted : ∀ stage ∈ (if hasStage "$sort" (initial ++ selected) then []
      else [sortStage (.ofParameters parameters options) options]), stage.IsEncodable := by
    split
    · exact List.forall_mem_nil _
    · exact List.forall_mem_singleton.mpr (Stage.isEncodable_sort _ _)
  rw [pagePipeline, ← isEncodable_pageStages_iff most]
  simp only [List.forall_mem_append]
  constructor
  · rintro ⟨⟨⟨⟨-, filters⟩, -⟩, -⟩, window⟩
    exact ⟨filters, window⟩
  · rintro ⟨filters, window⟩
    exact ⟨⟨⟨⟨before.isEncodable, filters⟩, sorted⟩, after.isEncodable⟩, window⟩

/-- The pipeline of a page of a union can be encoded exactly where the stages of the union and its
window can be. -/
theorem isEncodable_unionPipeline_iff {stages : List Stage} :
    (∀ stage ∈ unionPipeline (.ofParameters parameters options) options stages,
      stage.IsEncodable) ↔
      (∀ stage ∈ stages, stage.IsEncodable) ∧
        (PageRequest.ofParameters parameters options).IsEncodable := by
  rw [unionPipeline, ← isEncodable_pageStages_iff most, List.forall_mem_append,
    List.forall_mem_append, List.forall_mem_singleton]
  have sorted : (sortStage (.ofParameters parameters options) options).IsEncodable :=
    Stage.isEncodable_sort _ _
  constructor
  · rintro ⟨⟨own, -⟩, window⟩
    exact ⟨own, window⟩
  · rintro ⟨own, window⟩
    exact ⟨⟨own, sorted⟩, window⟩

end

/-- The stages of a source up to its tag can be encoded exactly where those of the filters can
be. -/
theorem Source.isEncodable_tagged_iff {source : Source} (before : AreGiven source.initial)
    {filters : List Stage} {field : String} :
    (∀ stage ∈ source.tagged filters field, stage.IsEncodable) ↔
      ∀ stage ∈ filters, stage.IsEncodable := by
  rw [Source.tagged, List.forall_mem_append, List.forall_mem_append, List.forall_mem_singleton]
  have tagged := Stage.isEncodable_tag field source.collection
  exact ⟨fun all => all.1.2, fun own => ⟨⟨before.isEncodable, own⟩, tagged⟩⟩

/-- The stages of a union can be encoded exactly where those of the filters can be. -/
theorem isEncodable_unionStages_iff {base : Source} {others : List Source}
    (given : ∀ source ∈ base :: others, AreGiven source.initial ∧ AreGiven source.final)
    {filters : List Stage} {field : String} :
    (∀ stage ∈ unionStages base others filters field, stage.IsEncodable) ↔
      ∀ stage ∈ filters, stage.IsEncodable := by
  obtain ⟨⟨before, after⟩, rest⟩ := List.forall_mem_cons.mp given
  rw [unionStages, List.forall_mem_append, List.forall_mem_append,
    Source.isEncodable_tagged_iff before]
  constructor
  · exact fun all => all.1.1
  · intro own
    refine ⟨⟨own, List.forall_mem_map.mpr fun source mem => ?_⟩, after.isEncodable⟩
    obtain ⟨first, last⟩ := rest source mem
    exact Stage.isEncodable_union_iff.mpr (List.forall_mem_append.mpr
      ⟨(Source.isEncodable_tagged_iff first).mpr own, last.isEncodable⟩)

/-- The calls of a page can be encoded exactly where those before it can be, the counted stages, and
the stages of the page if it is fetched. -/
theorem Fetched.isEncodable_iff {engine : Engine} {collection : String} {page : PageRequest}
    {counted paged : List Stage} {what : String} {trace after : Trace}
    {result : Except Failure Page}
    (step : Fetched engine collection page counted paged what trace result after)
    (bounded : ∀ call ∈ trace.calls, call.length = some 1) :
    (∀ call ∈ after.calls, call.IsEncodable) ↔
      (∀ call ∈ trace.calls, call.IsEncodable) ∧ (∀ stage ∈ counted, stage.IsEncodable) ∧
        (FetchesPage after.calls → ∀ stage ∈ paged, stage.IsEncodable) := by
  have count : (Call.counting collection counted).IsEncodable ↔
      ∀ stage ∈ counted, stage.IsEncodable :=
    ⟨fun all => (List.forall_mem_append.mp all).1, Call.isEncodable_counting⟩
  obtain same | same := step.calls
  · have unfetched : ¬FetchesPage after.calls := by
      rintro ⟨call, mem, unbounded⟩
      rw [same, List.mem_append, List.mem_singleton] at mem
      obtain before | rfl := mem
      · exact nomatch unbounded.symm.trans (bounded call before)
      · cases unbounded
    rw [same] at unfetched ⊢
    rw [List.forall_mem_append, List.forall_mem_singleton, count]
    exact ⟨fun all => ⟨all.1, all.2, fun fetched => absurd fetched unfetched⟩,
      fun all => ⟨all.1, all.2.1⟩⟩
  · have fetched : FetchesPage after.calls :=
      ⟨.fetching collection paged, by simp [same], rfl⟩
    rw [forall_prop_of_true fetched, same, List.forall_mem_append, List.forall_mem_cons,
      List.forall_mem_singleton, count]
    rfl

/-- What is sent for a document can be encoded exactly where the identifier that it is looked up by
can be, if there is one. -/
theorem fetchItem_isEncodable_iff (engine : Engine) (collection : String) (request : Request)
    {initial final : List Stage} (given : Option GivenId) (before : AreGiven initial)
    (after : AreGiven final) :
    (∀ call ∈ ((fetchItem collection request initial final given).run engine).2.calls,
      call.IsEncodable) ↔
      ∀ identifier, soughtIdentifier request given = .ok (some identifier) →
        identifier.IsEncodable := by
  rw [Session.run, fetchItem_apply]
  cases sought : soughtIdentifier request given with
  | error failure => simp
  | ok identifier? =>
    cases identifier? with
    | none => simp
    | some identifier =>
      have one : (Stage.limit 1).IsEncodable := Stage.isEncodable_limit_iff.mpr (by decide)
      have sent : (Call.first collection
          (initial ++ .select (.identified identifier) :: final)).IsEncodable ↔
            identifier.IsEncodable := by
        rw [← Stage.isEncodable_select_identified_iff, Call.IsEncodable, Call.first,
          List.forall_mem_append, List.forall_mem_append, List.forall_mem_cons,
          List.forall_mem_singleton]
        exact ⟨fun all => all.1.2.1,
          fun own => ⟨⟨before.isEncodable, own, after.isEncodable⟩, one⟩⟩
      simp only [Session.fetchFirst_apply, Trace.calls_sent, Trace.calls_empty, List.nil_append,
        List.forall_mem_singleton, sent, Except.ok.injEq, Option.some.injEq, forall_eq']

section

variable {engine : Engine} (bounded : engine.CountsBelow (2 ^ 63)) {options : Options}
  (most : options.limit < 2 ^ 63) {request : Request} {parameters : Parameters}
  (read : request.parameters = .ok parameters)

include bounded most read

/-- What is sent for a list can be encoded where its filters can be and its page, and where the
filters compile only there. -/
theorem fetchList_isEncodable (collection : String) {initial final : List Stage}
    (before : AreGiven initial) (after : AreGiven final) :
    let calls := ((fetchList collection request options initial final).run engine).2.calls
    let filters := parameters.confined options
    let sound := FiltersEncodable engine collection filters ∧
      (FetchesPage calls → (PageRequest.ofParameters parameters options).IsEncodable)
    (sound → ∀ call ∈ calls, call.IsEncodable) ∧
      ∀ selected, ((compileShares collection filters).run engine).1 = .ok selected →
        (∀ call ∈ calls, call.IsEncodable) → sound := by
  intro calls filters sound
  have run := fetchList_cases engine collection request options initial final
  have same : calls = ((fetchList collection request options initial final).run engine).2.calls :=
    rfl
  generalize ((fetchList collection request options initial final).run engine).2 = trace
    at run same
  generalize ((fetchList collection request options initial final).run engine).1 = result at run
  cases run with
  | unread unread => cases unread.symm.trans read
  | uncompiled other builds =>
    -- Nothing is sent here but the counts for shares, so no page is fetched.
    cases other.symm.trans read
    rw [same]
    refine ⟨fun sound => (sound.1.isEncodable bounded builds).1, fun selected compiled => ?_⟩
    have failed : ((compileShares collection filters).run engine).1 = .error _ :=
      congrArg Prod.fst builds.apply
    cases compiled.symm.trans failed
  | @compiled own selected between _ _ other builds page =>
    cases other.symm.trans read
    have counted : (∀ stage ∈ initial ++ selected, stage.IsEncodable) ↔
        ∀ stage ∈ selected, stage.IsEncodable := by
      rw [List.forall_mem_append]
      exact and_iff_right before.isEncodable
    have all := page.isEncodable_iff builds.length_calls
    rw [isEncodable_pagePipeline_iff most before after, counted, ← same] at all
    rw [all]
    constructor
    · rintro ⟨filters, paged⟩
      obtain ⟨calls, outcome⟩ := filters.isEncodable bounded builds
      exact ⟨calls, outcome selected rfl, fun fetched => ⟨outcome selected rfl, paged fetched⟩⟩
    · rintro - - ⟨-, selected, paged⟩
      exact ⟨(filtersEncodable_iff bounded builds).mp selected, fun fetched => (paged fetched).2⟩

end

section

variable {options : Options} (most : options.limit < 2 ^ 63) {request : Request}
  {parameters : Parameters} (read : request.parameters = .ok parameters)

include most read

/-- What is sent for a union can be encoded where its identifiers can be and its page, and where the
filters compile and there is a source only there. -/
theorem fetchUnion_isEncodable (engine : Engine) {sources : List Source}
    (given : ∀ source ∈ sources, AreGiven source.initial ∧ AreGiven source.final) :
    let calls := ((fetchUnion sources request options).run engine).2.calls
    let filters := parameters.confined options
    let sound := IdentifiersEncodable filters ∧
      (FetchesPage calls → (PageRequest.ofParameters parameters options).IsEncodable)
    (sound → ∀ call ∈ calls, call.IsEncodable) ∧
      ∀ stages, compile filters = .ok stages → sources ≠ [] →
        (∀ call ∈ calls, call.IsEncodable) → sound := by
  intro calls filters sound
  cases sources with
  | nil => exact ⟨fun _ => List.forall_mem_nil _, fun _ _ none => absurd rfl none⟩
  | cons base others =>
    have run := fetchUnion_cases engine base others request options
    have same : calls = ((fetchUnion (base :: others) request options).run engine).2.calls := rfl
    generalize ((fetchUnion (base :: others) request options).run engine).2 = trace at run same
    generalize ((fetchUnion (base :: others) request options).run engine).1 = result at run
    cases run with
    | unread unread => cases unread.symm.trans read
    | uncompiled other failed =>
      cases other.symm.trans read
      rw [same]
      exact ⟨fun _ => List.forall_mem_nil _, fun stages compiled =>
        nomatch compiled.symm.trans failed⟩
    | @compiled own stages _ _ other compiled page =>
      cases other.symm.trans read
      have all := page.isEncodable_iff (List.forall_mem_nil _)
      rw [isEncodable_unionPipeline_iff most, isEncodable_unionStages_iff given,
        identifiersEncodable_iff compiled, ← same] at all
      rw [all]
      constructor
      · rintro ⟨filters, paged⟩
        exact ⟨List.forall_mem_nil _, filters, fun fetched => ⟨filters, paged fetched⟩⟩
      · rintro - - - ⟨-, filters, paged⟩
        exact ⟨filters, fun fetched => (paged fetched).2⟩

end

/-- Where everything that is sent can be encoded, with an engine that counts less than `2 ^ 63`
documents and options that allow a page less than that. For one document it can be exactly where the
identifier that is looked up can be. For a list it can be where its identifiers can be, the sizes of
its shares, and the start of its page if the page is fetched; for a union, without the shares. It
can be only there if the filters compile. Shares of up to a hundred percent of up to `2 ^ 62`
documents can be. An identifier that is given as a number can be exactly where the number can be,
and the 24 digits of an object identifier can be looked up unless none of them is a letter and the
number that they denote is too large. -/
theorem sent_integers_encodable {engine : Engine} (bounded : engine.CountsBelow (2 ^ 63))
    {options : Options} (most : options.limit < 2 ^ 63) (request : Request) :
    (∀ collection initial final given, AreGiven initial → AreGiven final →
      ((∀ call ∈ ((fetchItem collection request initial final given).run engine).2.calls,
        call.IsEncodable) ↔
        ∀ identifier, soughtIdentifier request given = .ok (some identifier) →
          identifier.IsEncodable)) ∧
      (∀ parameters, request.parameters = .ok parameters →
        let filters := parameters.confined options
        let page := PageRequest.ofParameters parameters options
        (∀ collection initial final, AreGiven initial → AreGiven final →
          let calls := ((fetchList collection request options initial final).run engine).2.calls
          let sound := FiltersEncodable engine collection filters ∧
            (FetchesPage calls → page.IsEncodable)
          (sound → ∀ call ∈ calls, call.IsEncodable) ∧
            ∀ selected, ((compileShares collection filters).run engine).1 = .ok selected →
              (∀ call ∈ calls, call.IsEncodable) → sound) ∧
          (∀ sources : List Source,
            (∀ source ∈ sources, AreGiven source.initial ∧ AreGiven source.final) →
            let calls := ((fetchUnion sources request options).run engine).2.calls
            let sound := IdentifiersEncodable filters ∧ (FetchesPage calls → page.IsEncodable)
            (sound → ∀ call ∈ calls, call.IsEncodable) ∧
              ∀ stages, compile filters = .ok stages → sources ≠ [] →
                (∀ call ∈ calls, call.IsEncodable) → sound) ∧
          (engine.CountsBelow (2 ^ 62 + 1) → (∀ filter ∈ filters, filter.AsksForPart) →
            IdentifiersEncodable filters →
              ∀ collection, FiltersEncodable engine collection filters)) ∧
      (∀ n identifier, Identifier.ofGiven (.int n) = .ok identifier →
        (identifier.IsEncodable ↔ IsEncodable n)) ∧
      ∀ text : String, text.toList.length = 24 → text.toList.all isHexDigit = true →
        ∃ identifier, Identifier.ofText text = .ok identifier ∧
          (identifier.IsEncodable ↔ (text.toList.all isDecimalDigit = true →
            ofDigits (text.toList.filterMap digitValue?) < 2 ^ 63)) := by
  refine ⟨fun collection initial final given =>
      fetchItem_isEncodable_iff engine collection request given, fun parameters read => ?_,
    fun n identifier => Identifier.isEncodable_of_int, fun text => Identifier.isEncodable_of_hex⟩
  refine ⟨fun collection initial final => fetchList_isEncodable bounded most read collection,
    fun sources => fetchUnion_isEncodable most read engine, fun small parts sound collection => ?_⟩
  exact sound.filtersEncodable small parts

/-- A stage of a caller that holds a number beyond all that can be encoded. -/
def hugeStage : Stage := .custom [("$match", single "price" (.int (10 ^ 30)))]

/-- The stage is one of a caller. -/
theorem areGiven_hugeStage : AreGiven [hugeStage] := by
  intro stage mem
  rw [List.mem_singleton.mp mem]
  exact ⟨_, rfl⟩

/-- A request for the last half of what has an identifier, on the third page. -/
def thirdPageRequest : Request := .written "/items?page=3&filter=id|string|eq|42|-50"

/-- The filter of that request. -/
def lastHalfFilter : Filter := Filter.read "id|string|eq|42|-50"

/-- What the library sends for the third page can be encoded, whatever the caller puts in: a number,
the half of ten documents, and the start of the page. So can the look up of an object identifier
with a letter. -/
theorem third_page_encodable :
    tenEachEngine.CountsBelow (2 ^ 63) ∧ Options.default.limit < 2 ^ 63 ∧
      (∃ parameters, thirdPageRequest.parameters = .ok parameters ∧
        (PageRequest.ofParameters parameters .default).skip = 500) ∧
      ((fetchList "products" thirdPageRequest .default [hugeStage] []).run
        tenEachEngine).2.calls.length = 3 ∧
      (∀ call ∈ ((fetchList "products" thirdPageRequest .default [hugeStage] []).run
        tenEachEngine).2.calls, call.IsEncodable) ∧
      ∀ call ∈ ((fetchItem "products" thirdPageRequest [hugeStage] []
        (some (.text "507f1f77bcf86cd799439011"))).run tenEachEngine).2.calls,
        call.IsEncodable := by
  have few : ∀ {bound : Int}, 10 < bound → tenEachEngine.CountsBelow bound := by
    intro bound above earlier collection pipeline total counted
    rw [tenEachEngine_total counted]
    exact above
  have most : Options.default.limit < 2 ^ 63 := by decide
  obtain ⟨items, lists, -, hex⟩ :=
    sent_integers_encodable (few (by decide)) most thirdPageRequest
  have read : thirdPageRequest.parameters =
      .ok [("page", "3"), ("filter", "id|string|eq|42|-50")] :=
    eq_ok_of_toOption (by decide +kernel)
  obtain ⟨list, -, parts⟩ := lists _ read
  have start : (PageRequest.ofParameters [("page", "3"), ("filter", "id|string|eq|42|-50")]
      .default).skip = 500 := by decide +kernel
  have identifiers : IdentifiersEncodable [lastHalfFilter] := by
    rw [IdentifiersEncodable, List.forall_mem_singleton]
    have condition : lastHalfFilter.condition =
        .ok (some (.identified ⟨"42", some (.int 42), .text "42"⟩)) := rfl
    intro identifier made n number
    cases condition.symm.trans made
    cases number
    decide
  have half : ∀ filter ∈ [lastHalfFilter], filter.AsksForPart := by
    have share : lastHalfFilter.finiteShare? = some (.finite true (50 * Binary64.one)) := by
      decide +kernel
    rw [List.forall_mem_singleton]
    intro percent asked
    cases share.symm.trans asked
    exact ⟨true, _, rfl, Nat.mul_le_mul_right _ (by decide)⟩
  have filters := parts (few (by decide)) half identifiers "products"
  obtain ⟨sends, -⟩ := list "products" [hugeStage] [] areGiven_hugeStage (List.forall_mem_nil _)
  refine ⟨few (by decide), most, ⟨_, read, start⟩, by decide +kernel,
    sends ⟨filters, fun _ _ => by rw [start]; decide⟩, ?_⟩
  refine (items "products" [hugeStage] [] _ areGiven_hugeStage (List.forall_mem_nil _)).mpr ?_
  intro identifier sought
  obtain ⟨lettered, own, encodable⟩ := hex "507f1f77bcf86cd799439011" rfl (by decide)
  have same : soughtIdentifier thirdPageRequest (some (.text "507f1f77bcf86cd799439011")) =
      (Identifier.ofText "507f1f77bcf86cd799439011").map some := rfl
  rw [same, own] at sought
  cases sought
  exact encodable.mpr fun decimal => absurd decimal (by decide)

/-- Numbers that are sent though they cannot be encoded: the number of an object identifier whose
digits are all decimal, the start of a page, and the size of a share. -/
theorem unencodable_sent :
    tenEachEngine.CountsBelow (2 ^ 63) ∧ Options.default.limit < 2 ^ 63 ∧
      "507199887766554433221100".toList.length = 24 ∧
      "507199887766554433221100".toList.all isHexDigit = true ∧
      (∃ call ∈ ((fetchItem "products" (.written "/item") [] []
        (some (.text "507199887766554433221100"))).run tenEachEngine).2.calls,
        ¬call.IsEncodable) ∧
      (∃ call ∈ ((fetchList "products" (.written "/items?page=99999999999999999999") .default [] []
        ).run tenEachEngine).2.calls, ¬call.IsEncodable) ∧
      ∃ call ∈ ((fetchList "products" (.written "/items?filter=price|amount|gt|0|1e25") .default []
        []).run tenEachEngine).2.calls, ¬call.IsEncodable := by
  refine ⟨fun earlier collection pipeline total counted => ?_, by decide, rfl, by decide,
    by decide +kernel, by decide +kernel, by decide +kernel⟩
  rw [tenEachEngine_total counted]
  decide

end QueryPipeline
