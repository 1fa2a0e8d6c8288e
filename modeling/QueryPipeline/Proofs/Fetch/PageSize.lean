import QueryPipeline.Proofs.Fetch.Agreement
import QueryPipeline.Proofs.Fetch.Union

/-!
# The size of a page

The size of a page is the last limit of a request as far as it can be read, cut down to the size
that the options allow. As long as it is positive, the call for the page ends with it, whatever else
the request and the caller put in. A size of nothing or less is no size: as with the flag for
everything at once, the page is not cut out then, and nothing that the library adds bounds it.
-/

namespace QueryPipeline

open Number Pipeline Url

/-- A call whose last stage lets through at least one document and at most a number of them. -/
def Call.IsCapped (call : Call) (most : Int) : Prop :=
  ∃ size, call.pipeline.getLast? = some (.limit size) ∧ 1 ≤ size ∧ size ≤ most

/-- The size of a page that parameters ask for; without one that can be read, the largest. -/
def Url.Parameters.size (parameters : Parameters) (options : Options) : Int :=
  integerOr options.limit (parameters.last? limitKey)

/-- The only call of a page without a bound is the fetch. -/
theorem Fetched.eq_fetching {engine : Engine} {collection : String} {page : PageRequest}
    {counted paged : List Stage} {what : String} {trace after : Trace}
    {result : Except Failure Page}
    (step : Fetched engine collection page counted paged what trace result after)
    (bounded : ∀ call ∈ trace.calls, call.length = some 1) :
    ∀ call ∈ after.calls, call.length = none → call = .fetching collection paged := by
  intro call mem unbounded
  have other : ∀ {earlier : Call}, earlier.length = some 1 → call ≠ earlier := by
    rintro earlier one rfl
    exact nomatch unbounded.symm.trans one
  obtain same | same := step.calls
  · rw [same, List.mem_append, List.mem_singleton] at mem
    obtain before | count := mem
    · exact absurd rfl (other (bounded call before))
    · exact absurd count (other rfl)
  · rw [same, List.mem_append, List.mem_cons, List.mem_singleton] at mem
    obtain before | count | fetch := mem
    · exact absurd rfl (other (bounded call before))
    · exact absurd count (other rfl)
    · exact fetch

section

variable {engine : Engine} {request : Request} {options : Options} {parameters : Parameters}
  (read : request.parameters = .ok parameters)

include read

/-- The call of a list without a bound is the one for its page. -/
theorem fetchList_unbounded {collection : String} {initial final : List Stage} :
    ∀ call ∈ ((fetchList collection request options initial final).run engine).2.calls,
      call.length = none → ∃ selected,
        ((compileShares collection (parameters.confined options)).run engine).1 = .ok selected ∧
        call.pipeline =
          pagePipeline (.ofParameters parameters options) options (initial ++ selected) final := by
  have run := fetchList_cases engine collection request options initial final
  generalize ((fetchList collection request options initial final).run engine).1 = result at run
  generalize ((fetchList collection request options initial final).run engine).2 = after at run ⊢
  intro call mem unbounded
  cases run with
  | unread => cases mem
  | uncompiled other builds => exact nomatch unbounded.symm.trans (builds.length_calls call mem)
  | @compiled own selected between _ _ other builds page =>
    cases other.symm.trans read
    have fetch := page.eq_fetching builds.length_calls call mem unbounded
    exact ⟨selected, congrArg Prod.fst builds.apply, congrArg Call.pipeline fetch⟩

/-- The call of a union without a bound is the one for its page. -/
theorem fetchUnion_unbounded {sources : List Source} :
    ∀ call ∈ ((fetchUnion sources request options).run engine).2.calls, call.length = none →
      ∃ base others stages, sources = base :: others ∧
        compile (parameters.confined options) = .ok stages ∧
        call.pipeline = unionPipeline (.ofParameters parameters options) options
          (unionStages base others stages options.sourceField) := by
  cases sources with
  | nil => exact List.forall_mem_nil _
  | cons base others =>
    have run := fetchUnion_cases engine base others request options
    generalize ((fetchUnion (base :: others) request options).run engine).1 = result at run
    generalize ((fetchUnion (base :: others) request options).run engine).2 = after at run ⊢
    intro call mem unbounded
    cases run with
    | unread | uncompiled => cases mem
    | @compiled own stages _ _ other compiled page =>
      cases other.symm.trans read
      have fetch := page.eq_fetching (List.forall_mem_nil _) call mem unbounded
      exact ⟨base, others, stages, rfl, compiled, congrArg Call.pipeline fetch⟩

end

/-- Where everything is not asked for at once, the window of a page is as large as is asked for, up
to the largest of a page, and it is left out exactly where that is no size. -/
theorem pageStages_ofParameters {parameters : Parameters} {options : Options}
    (most : 1 ≤ options.limit) (unflagged : isFlagSet (parameters.last? unpagedKey) = false) :
    pageStages (.ofParameters parameters options) =
      if 1 ≤ parameters.size options then
        [.skip (PageRequest.ofParameters parameters options).skip,
          .limit (min (parameters.size options) options.limit)]
      else [] := by
  have paged : (PageRequest.ofParameters parameters options).isPaged =
      decide (1 ≤ parameters.size options) := by
    change (!isFlagSet (parameters.last? unpagedKey) &&
      decide (0 < min (parameters.size options) options.limit)) = _
    rw [unflagged, Bool.not_false, Bool.true_and, decide_eq_decide, lt_min_iff]
    omega
  rw [pageStages, paged]
  simp only [decide_eq_true_eq]
  rfl

/-- A pipeline that ends with the window of a page is capped by its size. -/
theorem isCapped_of_window {call : Call} {front : List Stage} {skip size most : Int}
    (ends : call.pipeline = front ++ [.skip skip, .limit (min size most)]) (some : 1 ≤ size)
    (positive : 1 ≤ most) : call.IsCapped most := by
  refine ⟨min size most, ?_, le_min some positive, min_le_right size most⟩
  rw [ends, List.getLast?_append]
  rfl

/-- The size of a page is capped where the request asks for a page. With options that allow a
positive size and no flag for everything at once, whatever the request, the caller's stages, the
sources and the engine: the call without a bound, if it is sent, ends with a limit of at least one
and at most the size that is allowed, unless the limit that the request asks for is zero or less.
Then there is no window: what passes the filters of a list is sorted, unless it is already, and goes
through the caller's final stages, and a union is only sorted. -/
theorem page_size_capped {options : Options} (most : 1 ≤ options.limit) {request : Request}
    {parameters : Parameters} (read : request.parameters = .ok parameters)
    (unflagged : isFlagSet (parameters.last? unpagedKey) = false) (engine : Engine) :
    (∀ (collection : String) (initial final : List Stage),
      ∀ call ∈ ((fetchList collection request options initial final).run engine).2.calls,
        call.length = none →
          (1 ≤ parameters.size options → call.IsCapped options.limit) ∧
          (parameters.size options ≤ 0 → ∃ selected field direction,
            ((compileShares collection (parameters.confined options)).run engine).1 =
              .ok selected ∧
            sortStage (.ofParameters parameters options) options = .sort field direction ∧
            call.pipeline = initial ++ selected ++
              (if hasStage "$sort" (initial ++ selected) then [] else [.sort field direction]) ++
              final)) ∧
      ∀ sources : List Source,
        ∀ call ∈ ((fetchUnion sources request options).run engine).2.calls,
          call.length = none →
            (1 ≤ parameters.size options → call.IsCapped options.limit) ∧
            (parameters.size options ≤ 0 → ∃ base others stages field direction,
              sources = base :: others ∧ compile (parameters.confined options) = .ok stages ∧
              sortStage (.ofParameters parameters options) options = .sort field direction ∧
              call.pipeline = unionStages base others stages options.sourceField ++
                [.sort field direction]) := by
  have window := pageStages_ofParameters most unflagged
  have unsized : parameters.size options ≤ 0 → ¬1 ≤ parameters.size options := by omega
  constructor
  · intro collection initial final call mem unbounded
    obtain ⟨selected, compiled, same⟩ := fetchList_unbounded read call mem unbounded
    rw [pagePipeline, window] at same
    constructor
    · intro sized
      rw [if_pos sized] at same
      exact isCapped_of_window same sized most
    · intro none
      rw [if_neg (unsized none), List.append_nil] at same
      exact ⟨selected, _, _, compiled, rfl, same⟩
  · intro sources call mem unbounded
    obtain ⟨base, others, stages, given, compiled, same⟩ :=
      fetchUnion_unbounded read call mem unbounded
    rw [unionPipeline, window] at same
    constructor
    · intro sized
      rw [if_pos sized] at same
      exact isCapped_of_window same sized most
    · intro none
      rw [if_neg (unsized none), List.append_nil] at same
      exact ⟨base, others, stages, _, _, given, compiled, rfl, same⟩

/-- A request with a limit of zero and another above the cap, which is written with a blank, a sign
and digits of another script. -/
def manyRequest : Request := .written "/items?limit=0&limit=%20%2B%D9%A7%D9%A0%D9%A0&page=-3"

/-- The last limit counts, and the page that is fetched is capped. -/
theorem many_page_capped :
    1 ≤ Options.default.limit ∧ ∃ parameters, manyRequest.parameters = .ok parameters ∧
      isFlagSet (parameters.last? unpagedKey) = false ∧ parameters.size .default = 700 ∧
      ∃ call ∈ ((fetchList "products" manyRequest .default [] []).run
        (.scripted [])).2.calls, call.length = none ∧ call.IsCapped Options.default.limit := by
  have most : 1 ≤ Options.default.limit := by decide
  have read : manyRequest.parameters =
      .ok [("limit", "0"), ("limit", " +٧٠٠"), ("page", "-3")] :=
    eq_ok_of_toOption (by decide +kernel)
  have size : Parameters.size [("limit", "0"), ("limit", " +٧٠٠"), ("page", "-3")] .default = 700 :=
    by decide +kernel
  have sent : (((fetchList "products" manyRequest .default [] []).run
      (.scripted [])).2.calls.find? (·.length.isNone)).isSome := by decide +kernel
  obtain ⟨call, found⟩ := Option.isSome_iff_exists.mp sent
  have mem := List.mem_of_find?_eq_some found
  have unbounded := List.find?_some found
  rw [Option.isNone_iff_eq_none] at unbounded
  obtain ⟨lists, -⟩ := page_size_capped most read (by decide) (.scripted [])
  obtain ⟨capped, -⟩ := lists "products" [] [] call mem unbounded
  exact ⟨most, _, read, by decide, size, call, mem, unbounded, capped (by rw [size]; decide)⟩

/-- The number of documents that a stage goes on with. -/
def Pipeline.Stage.kept? : Stage → Option Int
  | .limit number => some number
  | _ => none

/-- A capped call ends with a stage that goes on with some number of documents. -/
theorem Call.IsCapped.isSome_kept? {call : Call} {most : Int} (capped : call.IsCapped most) :
    (call.pipeline.getLast?.bind Stage.kept?).isSome = true := by
  obtain ⟨size, last, -⟩ := capped
  rw [last]
  rfl

/-- A request for pages of no size. -/
def sizelessRequest : Request := .written "/items?limit=0"

/-- A limit of zero is below the cap and lifts it: the call for the page is not bounded at all. -/
theorem sizeless_page_uncapped :
    1 ≤ Options.default.limit ∧
      (sizelessRequest.parameters.toOption.map fun parameters =>
        isFlagSet (parameters.last? unpagedKey)) = some false ∧
      ∃ call ∈ ((fetchList "products" sizelessRequest .default [] []).run
        (.scripted [])).2.calls, call.length = none ∧ ¬call.IsCapped Options.default.limit := by
  have sent : (((fetchList "products" sizelessRequest .default [] []).run
      (.scripted [])).2.calls.find? fun call => call.length.isNone &&
        (call.pipeline.getLast?.bind Stage.kept?).isNone).isSome := by decide +kernel
  obtain ⟨call, found⟩ := Option.isSome_iff_exists.mp sent
  have told := List.find?_some found
  obtain ⟨unbounded, other⟩ := Bool.and_eq_true_iff.mp told
  refine ⟨by decide, by decide +kernel, call, List.mem_of_find?_eq_some found,
    Option.isNone_iff_eq_none.mp unbounded, fun capped => ?_⟩
  have some := capped.isSome_kept?
  rw [← Option.not_isNone, other] at some
  cases some

end QueryPipeline
