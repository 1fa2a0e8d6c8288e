import QueryPipeline.Proofs.Fetch.Confined

/-!
# Filters that a list discards

A list leaves out what a client asks for on the field of its tenant, and it drops a filter that has
no condition. Neither leaves a trace, whatever share it asks for and wherever it stands: the calls,
the log and the outcome are those of the request without it. Two requests are compared here, whose
parameters differ in such filters only.
-/

namespace QueryPipeline

open Number Pipeline Url

/-- A filter that a list with some options discards. -/
inductive Filter.IsDiscarded (options : Options) (filter : Filter) : Prop
  /-- The filter is on the field of the tenant. -/
  | tenant {tenant : String} (owned : options.tenant = some tenant) (nonempty : tenant ≠ "")
      (named : options.tenantField ≠ "") (on : filter.field = some options.tenantField) :
      IsDiscarded options filter
  /-- The filter has no condition. -/
  | dropped (made : filter.condition = .ok none) : IsDiscarded options filter

/-- Parameters, and the same parameters with discarded filters put in at any positions. -/
inductive Url.Parameters.Padded (options : Options) : Parameters → Parameters → Prop
  /-- There is no parameter left. -/
  | nil : Padded options [] []
  /-- Both have the next parameter. -/
  | keep (pair : String × String) {parameters padded : Parameters}
      (rest : Padded options parameters padded) :
      Padded options (pair :: parameters) (pair :: padded)
  /-- A discarded filter is put in. -/
  | insert {text : String} {parameters padded : Parameters}
      (discarded : (Filter.read text).IsDiscarded options)
      (rest : Padded options parameters padded) :
      Padded options parameters ((filterKey, text) :: padded)

/-- Whether a filter has no condition. -/
def Filter.isDropped (filter : Filter) : Bool :=
  match filter.condition with
  | .ok none => true
  | _ => false

/-- A filter is dropped where it has no condition. -/
theorem Filter.isDropped_iff {filter : Filter} :
    filter.isDropped = true ↔ filter.condition = .ok none := by
  rw [isDropped]
  split
  · next made => exact iff_of_true rfl made
  · next other => exact iff_of_false Bool.false_ne_true other

/-- Filters compile to the same without those that are dropped. -/
theorem compile_filter_isDropped (filters : List Filter) :
    compile (filters.filter (!·.isDropped)) = compile filters := by
  induction filters with
  | nil => rfl
  | cons filter rest ih =>
    cases dropped : filter.isDropped with
    | true =>
      have made := Filter.isDropped_iff.mp dropped
      rw [List.filter_cons_of_neg (by simp [dropped]), ih, compile, made]
      cases compile rest <;> rfl
    | false =>
      rw [List.filter_cons_of_pos (by simp [dropped]), compile, compile, ih]

/-- Filters are compiled with their shares in the same session without those that are dropped. -/
theorem compileSharesAfter_filter_isDropped (collection : String) (pipeline : List Stage)
    (filters : List Filter) :
    compileSharesAfter collection pipeline (filters.filter (!·.isDropped)) =
      compileSharesAfter collection pipeline filters := by
  induction filters generalizing pipeline with
  | nil => rfl
  | cons filter rest ih =>
    cases dropped : filter.isDropped with
    | true =>
      have made := Filter.isDropped_iff.mp dropped
      rw [List.filter_cons_of_neg (by simp [dropped]), ih, compileSharesAfter, made]
      rfl
    | false =>
      rw [List.filter_cons_of_pos (by simp [dropped]), compileSharesAfter_cons,
        compileSharesAfter_cons]
      congr 1
      funext added
      exact ih _

namespace Url.Parameters.Padded

variable {options : Options} {parameters padded : Parameters}

/-- Under every other key the same values are found. -/
theorem all_eq (pads : Padded options parameters padded) {key : String} (other : key ≠ filterKey) :
    padded.all key = parameters.all key := by
  induction pads with
  | nil => rfl
  | keep pair rest ih =>
    rw [all, all, List.filter_cons, List.filter_cons]
    split
    · exact congrArg (pair.2 :: ·) ih
    · exact ih
  | insert discarded rest ih =>
    rw [all, List.filter_cons_of_neg (by simpa using other.symm)]
    exact ih

/-- The filters are the same but for those that are discarded. -/
theorem filter_filters (pads : Padded options parameters padded) (keep : Filter → Bool)
    (leaves : ∀ filter : Filter, filter.IsDiscarded options → keep filter = false) :
    padded.filters.filter keep = parameters.filters.filter keep := by
  induction pads with
  | nil => rfl
  | keep pair rest ih =>
    rw [filters, filters, all, all, List.filter_cons, List.filter_cons]
    split
    · rw [List.map_cons, List.map_cons, List.map_cons, List.map_cons, List.filter_cons,
        List.filter_cons]
      split
      · exact congrArg (Filter.read pair.2 :: ·) ih
      · exact ih
    · exact ih
  | insert discarded rest ih =>
    rw [filters, all, List.filter_cons_of_pos (by simp), List.map_cons, List.map_cons,
      List.filter_cons_of_neg (by simp [leaves _ discarded])]
    exact ih

/-- Confined to the tenant, the filters are the same but for those that are dropped. -/
theorem filter_confined (pads : Padded options parameters padded) :
    (padded.confined options).filter (!·.isDropped) =
      (parameters.confined options).filter (!·.isDropped) := by
  by_cases owner : ∃ tenant, options.tenant = some tenant ∧ tenant ≠ "" ∧ options.tenantField ≠ ""
  · obtain ⟨tenant, owned, nonempty, named⟩ := owner
    have others := pads.filter_filters
      (fun filter => !filter.isDropped && decide (filter.field ≠ some options.tenantField))
      fun filter discarded => by
        cases discarded with
        | tenant _ _ _ on => simp [on]
        | dropped made => simp [Filter.isDropped_iff.mpr made]
    rw [confined_eq owned nonempty named, confined_eq owned nonempty named, List.filter_cons,
      List.filter_cons, List.filter_filter, List.filter_filter, others]
  · rw [confined, confined, confine_of_unowned owner, confine_of_unowned owner]
    refine pads.filter_filters (!·.isDropped) fun filter discarded => ?_
    cases discarded with
    | tenant owned nonempty named => exact absurd ⟨_, owned, nonempty, named⟩ owner
    | dropped made => simp [Filter.isDropped_iff.mpr made]

/-- The requests for a page are the same but for the filters as they were written. -/
theorem ofParameters_eq (pads : Padded options parameters padded) :
    PageRequest.ofParameters padded options =
      { PageRequest.ofParameters parameters options with filters := padded.all filterKey } := by
  have same : ∀ key, key ≠ filterKey → padded.last? key = parameters.last? key :=
    fun key other => congrArg List.getLast? (pads.all_eq other)
  rw [PageRequest.ofParameters, PageRequest.ofParameters, same sortKey (by decide),
    same pageKey (by decide), same limitKey (by decide), same idKey (by decide),
    same unpagedKey (by decide), same countOnlyKey (by decide)]

end Url.Parameters.Padded

/-- Discarded filters are invisible. Two requests whose parameters differ only in filters that a
list discards have the same calls, the same log and the same outcome, whatever the engine answers:
for a list of one collection with any stages of the caller, and for a union of any sources. -/
theorem discarded_filters_invisible {options : Options} {parameters padded : Parameters}
    (pads : Parameters.Padded options parameters padded) {request other : Request}
    (read : request.parameters = .ok parameters) (readOther : other.parameters = .ok padded)
    (engine : Engine) :
    (∀ (collection : String) (initial final : List Stage),
      (fetchList collection other options initial final).run engine =
        (fetchList collection request options initial final).run engine) ∧
      ∀ sources : List Source,
        (fetchUnion sources other options).run engine =
          (fetchUnion sources request options).run engine := by
  have same := pads.filter_confined
  constructor
  · intro collection initial final
    have shares : compileShares collection (padded.confined options) =
        compileShares collection (parameters.confined options) := by
      rw [compileShares, compileShares, ← compileSharesAfter_filter_isDropped, same,
        compileSharesAfter_filter_isDropped]
    rw [fetchList_eq, fetchList_eq, read, readOther, Session.ofExcept_ok_bind,
      Session.ofExcept_ok_bind, shares, pads.ofParameters_eq]
    generalize PageRequest.ofParameters parameters options = page
    rfl
  · intro sources
    cases sources with
    | nil => rfl
    | cons base others =>
      have compiled : compile (padded.confined options) =
          compile (parameters.confined options) := by
        rw [← compile_filter_isDropped, same, compile_filter_isDropped]
      rw [fetchUnion_cons, fetchUnion_cons, read, readOther, Session.ofExcept_ok_bind,
        Session.ofExcept_ok_bind, compiled, pads.ofParameters_eq]
      generalize PageRequest.ofParameters parameters options = page
      rfl

/-- A request for a share of what costs something in a shop. -/
def shareRequest : Request := .written "/items?limit=5&filter=price|amount|gt|0|10"

/-- The same request with a text that is no filter, a filter on the field of the tenant whose share
is no number, and a filter without a condition whose share is one. -/
def paddedRequest : Request :=
  .written ("/items?filter=nonsense&limit=5&filter=shopDomain|string|eq|other|half" ++
    "&filter=price|amount|gt|0|10&filter=price|amount|has|1|-50")

/-- The three filters that are put in change nothing: the share is counted, the documents are, and
the page is fetched, and no share is noted as ignored. -/
theorem padded_share_unchanged :
    ∃ parameters padded, shareRequest.parameters = .ok parameters ∧
      paddedRequest.parameters = .ok padded ∧
      Parameters.Padded shopOptions parameters padded ∧
      padded.length = parameters.length + 3 ∧
      let run := (fetchList "products" paddedRequest shopOptions [] []).run shopEngine
      run = (fetchList "products" shareRequest shopOptions [] []).run shopEngine ∧
        run.2.calls.length = 3 ∧ run.2.log.length = 1 := by
  have read : shareRequest.parameters =
      .ok [("limit", "5"), ("filter", "price|amount|gt|0|10")] :=
    eq_ok_of_toOption (by decide +kernel)
  have readOther : paddedRequest.parameters =
      .ok [("filter", "nonsense"), ("limit", "5"), ("filter", "shopDomain|string|eq|other|half"),
        ("filter", "price|amount|gt|0|10"), ("filter", "price|amount|has|1|-50")] :=
    eq_ok_of_toOption (by decide +kernel)
  have nonsense : (Filter.read "nonsense").IsDiscarded shopOptions :=
    .dropped (Filter.isDropped_iff.mp (by decide +kernel))
  have foreign : (Filter.read "shopDomain|string|eq|other|half").IsDiscarded shopOptions :=
    .tenant rfl (by decide) (by decide) (by decide +kernel)
  have unsupported : (Filter.read "price|amount|has|1|-50").IsDiscarded shopOptions :=
    .dropped (Filter.isDropped_iff.mp (by decide +kernel))
  have pads := Parameters.Padded.insert nonsense (.keep ("limit", "5") (.insert foreign
    (.keep ("filter", "price|amount|gt|0|10") (.insert unsupported .nil))))
  obtain ⟨lists, -⟩ := discarded_filters_invisible pads read readOther shopEngine
  have same := lists "products" [] []
  have lengths : (fun trace : Trace => (trace.calls.length, trace.log.length))
      ((fetchList "products" shareRequest shopOptions [] []).run shopEngine).2 = (3, 1) := by
    decide +kernel
  obtain ⟨calls, log⟩ := Prod.mk.inj lengths
  exact ⟨_, _, read, readOther, pads, rfl, same, by rw [same]; exact calls,
    by rw [same]; exact log⟩

end QueryPipeline
