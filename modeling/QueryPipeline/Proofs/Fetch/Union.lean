import QueryPipeline.Proofs.Fetch.Calls
import QueryPipeline.Proofs.Filter.Compile
import QueryPipeline.Proofs.Pipeline.Evaluation

/-!
# A union as the concatenation of its sources

The base of a union is treated differently from the other sources: its stages come first, and each
other source is added to what they yield. Under every evaluation the sources still count alike. The
rows of a union without final stages of the base are those of its sources, one source after the
other, each behind the same filters and its own tag.
-/

namespace QueryPipeline

open Document Number Pipeline Url

/-- The stages of a source, its final ones included. -/
def Source.stages (source : Source) (filters : List Stage) (field : String) : List Stage :=
  source.initial ++ filters ++ [.tag field source.collection] ++ source.final

/-- The rows of a union whose base has no final stages are the rows of its sources in order. -/
theorem runOn_unionStages {Row : Type} (evaluation : Evaluation Row) (base : Source)
    (others : List Source) (filters : List Stage) (field : String) (plain : base.final = []) :
    evaluation.runOn base.collection (unionStages base others filters field) =
      (base :: others).flatMap fun source =>
        evaluation.runOn source.collection (source.stages filters field) := by
  have first : base.stages filters field = base.tagged filters field := by
    rw [Source.stages, plain, List.append_nil, Source.tagged]
  have added := evaluation.run_map_union Source.collection
    (fun source => source.stages filters field) others
    (evaluation.runOn base.collection (base.tagged filters field))
  rw [unionStages, plain, List.append_nil, Evaluation.runOn, evaluation.run_append,
    List.flatMap_cons, first]
  exact added

/-- A union that is fetched has compiled its filters and then fetched its page. -/
theorem fetchUnion_eq_ok {engine : Engine} {base : Source} {others : List Source}
    {request : Request} {options : Options} {page : Page}
    (fetched : ((fetchUnion (base :: others) request options).run engine).1 = .ok page) :
    ∃ parameters stages, request.parameters = .ok parameters ∧
      compile (parameters.confined options) = .ok stages ∧
      Fetched engine base.collection (.ofParameters parameters options)
        (unionStages base others stages options.sourceField)
        (unionPipeline (.ofParameters parameters options) options
          (unionStages base others stages options.sourceField))
        (unionName (base :: others)) .empty (.ok page)
        ((fetchUnion (base :: others) request options).run engine).2 := by
  have run := fetchUnion_cases engine base others request options
  rw [fetched] at run
  generalize ((fetchUnion (base :: others) request options).run engine).2 = after at run ⊢
  generalize result : Except.ok page = outcome at run
  cases run with
  | unread | uncompiled => cases result
  | compiled read compiled page => exact ⟨_, _, read, compiled, result ▸ page⟩

/-- What a union sends, and what it counts. Without a source nothing is sent and the page is empty.
Otherwise a union that is fetched has been counted once and, unless only the count is asked for, its
page has been fetched once, both on the first collection and whatever shares the filters ask for;
the page goes through the counted stages, one sort and the window of the page, and nothing else.
Under every evaluation the counted rows of a base without final stages are those of the sources in
order, each behind its own first stages, the same filters, its own tag and its own final stages. -/
theorem union_concatenates_sources (sources : List Source) (request : Request) (options : Options)
    (engine : Engine) :
    let run := (fetchUnion sources request options).run engine
    (sources = [] → run.2.calls = [] ∧ run.1 = emptyPage options) ∧
      ∀ base others, sources = base :: others → ∀ page, run.1 = .ok page →
        ∃ parameters stages field direction,
          let asked := PageRequest.ofParameters parameters options
          let tag (source : Source) := Stage.tag options.sourceField source.collection
          let added (source : Source) := Stage.union source.collection
            (source.initial ++ stages ++ [tag source] ++ source.final)
          let counted := base.initial ++ stages ++ [tag base] ++ others.map added ++ base.final
          let window :=
            if asked.unpaged = true ∨ asked.limit ≤ 0 then []
            else [.skip ((asked.page - 1) * asked.limit), .limit asked.limit]
          let paged := counted ++ [.sort field direction] ++ window
          request.parameters = .ok parameters ∧
            compile (parameters.confined options) = .ok stages ∧
            compile ((parameters.confined options).map Filter.unshared) = .ok stages ∧
            sortStage asked options = .sort field direction ∧
            run.2.calls = .counting base.collection counted ::
              (if asked.countOnly then [] else [.fetching base.collection paged]) ∧
            (base.final = [] → ∀ (Row : Type) (evaluation : Evaluation Row),
              evaluation.runOn base.collection counted =
                sources.flatMap fun source => evaluation.runOn source.collection
                  (source.initial ++ stages ++ [tag source] ++ source.final)) := by
  refine ⟨?_, ?_⟩
  · rintro rfl
    exact ⟨rfl, rfl⟩
  · rintro base others rfl page fetched
    obtain ⟨parameters, stages, read, compiled, step⟩ := fetchUnion_eq_ok fetched
    obtain ⟨total, items, counted, page, ends⟩ := step.made
    rw [unionPipeline, pageStages_eq] at ends
    refine ⟨parameters, stages, _, _, read, compiled, by rw [compile_map_unshared, compiled], rfl,
      ?_, ?_⟩
    · obtain ⟨asked, none, calls⟩ | ⟨asked, found, calls⟩ := ends
      · rw [asked, calls]
        rfl
      · rw [asked, calls]
        rfl
    · intro plain Row evaluation
      exact runOn_unionStages evaluation base others stages options.sourceField plain

/-- Two shops and a second look at the first, each with a stage of its own. -/
def shopSources : List Source :=
  [⟨"north", [], []⟩, ⟨"south", [.custom [("$match", .object [("open", .bool true)])]], []⟩,
    ⟨"north", [], [.limit 1]⟩]

/-- A request for what costs something, and for a share of it. -/
def dearRequest : Request := .written "/items?filter=price|amount|gt|0|10"

/-- An engine that counts three documents and then yields one. -/
def threeEngine : Engine :=
  .scripted [.rows [.object [("total", .int 3)]], .rows [.object [("id", .int 1)]]]

/-- A union of three sources sends two calls, the second for the first page by the last update, and
its counted rows are those of the three. -/
theorem shop_union_concatenates :
    let run := (fetchUnion shopSources dearRequest .default).run threeEngine
    shopSources ≠ [] ∧ (∃ page, run.1 = .ok page) ∧ ∃ counted stages,
      run.2.calls = [.counting "north" counted, .fetching "north"
        (counted ++ [.sort "updatedAt" .descending] ++ [.skip 0, .limit 250])] ∧
      ∀ (documents : String → List Value) (plain : Members → List Value → List Value),
        (Evaluation.nested documents plain).runOn "north" counted =
          shopSources.flatMap fun source =>
            (Evaluation.nested documents plain).runOn source.collection
              (source.initial ++ stages ++ [.tag "_sourceType" source.collection] ++
                source.final) := by
  have succeeds : ((fetchUnion shopSources dearRequest .default).run
      threeEngine).1.toOption.isSome := by decide +kernel
  have given : dearRequest.parameters = .ok [("filter", "price|amount|gt|0|10")] :=
    eq_ok_of_toOption (by decide +kernel)
  obtain ⟨page, found⟩ := Option.isSome_iff_exists.mp succeeds
  have fetched := eq_ok_of_toOption found
  obtain ⟨-, union⟩ := union_concatenates_sources shopSources dearRequest .default threeEngine
  obtain ⟨parameters, stages, field, direction, read, -, -, sort, calls, rows⟩ :=
    union _ _ rfl page fetched
  cases given.symm.trans read
  have sorted : sortStage (.ofParameters [("filter", "price|amount|gt|0|10")] .default) .default =
      .sort "updatedAt" .descending := rfl
  cases sorted.symm.trans sort
  refine ⟨List.cons_ne_nil _ _, ⟨page, fetched⟩, _, stages, calls, ?_⟩
  intro documents plain
  exact rows rfl Value (.nested documents plain)

end QueryPipeline
