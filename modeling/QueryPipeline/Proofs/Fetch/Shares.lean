import QueryPipeline.Proofs.Fetch.Calls
import QueryPipeline.Proofs.Filter.ShareCount

/-!
# The documents that shares are taken of

A list counts for every share what passes the filters up to that share. The stages that a caller
puts first are not among those that are counted, although the list itself is counted behind them. So
the share is taken of the documents that it is cut out of where the caller puts nothing first, and
else only where the counted stages repeat those of the caller. Pipelines are compared as they are
sent.
-/

namespace QueryPipeline

open Document Number Pipeline Url

/-- A pipeline starts with some stages, as they are sent. -/
def StartsWith (whole front : List Stage) : Prop := stageValues front <+: stageValues whole

/-- Stages in two parts are sent one part after the other. -/
theorem stageValues_append (first second : List Stage) :
    stageValues (first ++ second) = stageValues first ++ stageValues second := by
  induction first with
  | nil => rfl
  | cons stage rest ih => rw [List.cons_append, stageValues, stageValues, ih, List.cons_append]

/-- A pipeline starts with its first stages. -/
theorem startsWith_first {whole front : List Stage} (first : front <+: whole) :
    StartsWith whole front := by
  obtain ⟨rest, rfl⟩ := first
  rw [StartsWith, stageValues_append]
  exact List.prefix_append _ _

/-- The first stages of a list are also the first behind other stages only if they repeat the other
stages and themselves. -/
theorem startsWith_append_iff {front whole : List Stage} (first : front <+: whole)
    (initial : List Stage) : StartsWith (initial ++ whole) front ↔
      StartsWith (initial ++ front) front := by
  have inner : stageValues (initial ++ front) <+: stageValues (initial ++ whole) := by
    rw [stageValues_append, stageValues_append]
    exact (List.prefix_append_right_inj _).mpr (startsWith_first first)
  constructor
  · intro starts
    refine List.prefix_of_prefix_length_le starts inner ?_
    rw [stageValues_append, List.length_append]
    omega
  · intro starts
    exact starts.trans inner

/-- A list that is fetched has sent its counts for shares, then its own count, and then perhaps the
page. -/
theorem fetchList_counts {engine : Engine} {collection : String} {request : Request}
    {options : Options} {initial final : List Stage} {page : Page}
    (fetched : ((fetchList collection request options initial final).run engine).1 = .ok page) :
    ∃ parameters selected counts, ∃ data : List Call,
      request.parameters = .ok parameters ∧
        ((fetchList collection request options initial final).run engine).2.calls =
          counts.map (ShareCount.call collection) ++
            .counting collection (initial ++ selected) :: data ∧
        (data = [] ∨ data = [.fetching collection (pagePipeline
          (.ofParameters parameters options) options (initial ++ selected) final)]) ∧
        ShareCount.Answered engine collection [] counts ∧
        ∀ count ∈ counts,
          count.IsMadeFor (parameters.confined options) ∧ count.stages <+: selected := by
  have run := fetchList_cases engine collection request options initial final
  rw [fetched] at run
  generalize ((fetchList collection request options initial final).run engine).2 = after at run
  generalize result : Except.ok page = outcome at run
  cases run with
  | unread | uncompiled => cases result
  | @compiled parameters selected between _ _ read run page =>
    obtain ⟨counts, sent, -, answered, made⟩ := run.counts
    rw [Trace.calls_empty, List.nil_append] at sent
    obtain counted | whole := page.calls
    · exact ⟨parameters, selected, counts, [], read, by rw [counted, sent], .inl rfl, answered,
        made⟩
    · exact ⟨parameters, selected, counts, _, read, by rw [whole, sent], .inr rfl, answered, made⟩

/-- What the shares of a list are taken of. A list that is fetched has counted once for every share,
then its own documents, and then it has perhaps fetched the page. Every share is counted after the
condition of its filter, behind all stages of the filters before it, and its window stands directly
after these stages in the pipeline of the list. But the counts leave out the stages that the caller
puts first: what is counted for the shares is the start of what is counted for the list exactly
where there are no such stages, or each count repeats them. -/
theorem shares_counted_over_list {engine : Engine} {collection : String} {request : Request}
    {options : Options} {initial final : List Stage} {page : Page}
    (fetched : ((fetchList collection request options initial final).run engine).1 = .ok page) :
    ∃ parameters selected counts, ∃ data : List Call,
      request.parameters = .ok parameters ∧
        ((fetchList collection request options initial final).run engine).2.calls =
          counts.map (ShareCount.call collection) ++
            .counting collection (initial ++ selected) :: data ∧
        (data = [] ∨ data = [.fetching collection (pagePipeline
          (.ofParameters parameters options) options (initial ++ selected) final)]) ∧
        ShareCount.Answered engine collection [] counts ∧
        (∀ count ∈ counts,
          count.IsMadeFor (parameters.confined options) ∧ count.stages <+: selected) ∧
        ((∀ count ∈ counts, StartsWith (initial ++ selected) count.stages) ↔
          initial = [] ∨ ∀ count ∈ counts, StartsWith (initial ++ count.stages) count.stages) := by
  obtain ⟨parameters, selected, counts, data, read, calls, ends, answered, made⟩ :=
    fetchList_counts fetched
  refine ⟨parameters, selected, counts, data, read, calls, ends, answered, made, ?_⟩
  constructor
  · intro starts
    exact .inr fun count mem =>
      (startsWith_append_iff (made count mem).2 initial).mp (starts count mem)
  · rintro (rfl | repeated) count mem
    · exact startsWith_first (made count mem).2
    · exact (startsWith_append_iff (made count mem).2 initial).mpr (repeated count mem)

/-- A request for the first tenth of the products that cost something. -/
def tenthRequest : Request := .written "/items?filter=price|amount|gt|0|10"

/-- An engine that counts ten documents, then one, and then yields no page. -/
def tenEngine : Engine :=
  .scripted [.rows [.object [("total", .int 10)]], .rows [.object [("total", .int 1)]], .rows []]

/-- The first tenth of all products that cost something is taken of what is listed. -/
theorem tenth_counted_over_list :
    let run := (fetchList "products" tenthRequest .default [] []).run tenEngine
    run.2.calls.length = 3 ∧ (∃ page, run.1 = .ok page) ∧
      ∃ (selected : List Stage) (counts : List ShareCount) (data : List Call),
        run.2.calls = counts.map (ShareCount.call "products") ++
          .counting "products" selected :: data ∧
          ∀ count ∈ counts, StartsWith selected count.stages := by
  have succeeds : ((fetchList "products" tenthRequest .default [] []).run
      tenEngine).1.toOption.isSome := by decide +kernel
  obtain ⟨page, found⟩ := Option.isSome_iff_exists.mp succeeds
  have fetched := eq_ok_of_toOption found
  refine ⟨by decide +kernel, ⟨page, fetched⟩, ?_⟩
  obtain ⟨parameters, selected, counts, data, -, calls, -, -, -, starts⟩ :=
    shares_counted_over_list fetched
  exact ⟨selected, counts, data, calls, starts.mpr (.inl rfl)⟩

/-- The field that the first stage of a pipeline selects by, as it is sent. -/
def firstField? (pipeline : List Stage) : Option String :=
  match pipeline.head?.map Stage.members with
  | some [("$match", .object ((field, _) :: _))] => some field
  | _ => none

/-- A pipeline that starts with some stages selects by the same field first. -/
theorem firstField?_eq_of_startsWith {whole front : List Stage} {field : String}
    (starts : StartsWith whole front) (first : firstField? front = some field) :
    firstField? whole = some field := by
  cases front with
  | nil => cases first
  | cons stage more =>
    cases whole with
    | nil => exact absurd (List.prefix_nil.mp starts) (List.cons_ne_nil _ _)
    | cons other rest =>
      obtain ⟨same, -⟩ := List.cons_prefix_cons.mp starts
      rw [firstField?, List.head?_cons, Option.map_some, ← Value.object.inj same]
      exact first

/-- A count selects first by the field that the counted stages select by first. -/
theorem firstField?_of_counting {collection field : String} {stages : List Stage}
    (first : firstField? (Call.counting collection stages).pipeline = some field) :
    firstField? stages = some field := by
  cases stages with
  | nil => cases first
  | cons stage rest => exact first

/-- The stage of a caller that goes on with the active documents. -/
def activeOnly : Stage := .custom [("$match", .object [("active", .bool true)])]

/-- The first tenth of the active products is counted over all products: the count for the share
does not go on with the active ones, but the count of the list does. -/
theorem tenth_counted_beyond_list :
    let run := (fetchList "products" tenthRequest .default [activeOnly] []).run tenEngine
    (∃ page, run.1 = .ok page) ∧
      run.2.calls.map (firstField? ·.pipeline) = [some "price", some "active", some "active"] ∧
      ¬∃ (counted : List (List Stage)) (selected : List Stage) (data : List Call),
        run.2.calls = counted.map (.counting "products") ++
          .counting "products" ([activeOnly] ++ selected) :: data ∧
          ∀ stages ∈ counted, StartsWith ([activeOnly] ++ selected) stages := by
  have succeeds : ((fetchList "products" tenthRequest .default [activeOnly] []).run
      tenEngine).1.toOption.isSome := by decide +kernel
  obtain ⟨page, found⟩ := Option.isSome_iff_exists.mp succeeds
  have fields : ((fetchList "products" tenthRequest .default [activeOnly] []).run
      tenEngine).2.calls.map (firstField? ·.pipeline) =
        [some "price", some "active", some "active"] := by decide +kernel
  refine ⟨⟨page, eq_ok_of_toOption found⟩, fields, ?_⟩
  rintro ⟨counted, selected, data, calls, starts⟩
  rw [calls] at fields
  cases counted with
  | nil =>
    obtain ⟨first, -⟩ := List.cons.inj fields
    exact absurd (Option.some.inj first) (by decide)
  | cons stages more =>
    obtain ⟨first, -⟩ := List.cons.inj fields
    have same := firstField?_eq_of_startsWith (starts stages List.mem_cons_self)
      (firstField?_of_counting first)
    exact absurd (Option.some.inj same) (by decide)

end QueryPipeline
