import QueryPipeline.Proofs.Fetch.PageCount

/-!
# Pages that can be written

The numbers of a page come from the request, the options, the count and a quotient. Each of them has
few enough digits to be written if the largest size that the options allow has, so no page is kept
from being written by its own numbers. A page is made of every count that a row can hold, whatever
is asked for.
-/

namespace QueryPipeline

open Document Number Pipeline Url

/-- A number that is read can be written, and so can the default where none is read. -/
theorem isWritable_integerOr {default : Int} (writable : isWritable default = true)
    (text : Option String) : isWritable (integerOr default text) = true := by
  cases text with
  | none => exact writable
  | some text =>
    rw [integerOr]
    split
    · next read => exact isWritable_of_readInteger read
    · exact writable

/-- The number of pages can be written, since the quotient is finite. -/
theorem isWritable_pagesOf {total limit pages : Int} (counted : pagesOf total limit = .ok pages) :
    isWritable pages = true := by
  obtain ⟨sign, units, rounded, near⟩ := Binary64.natAbs_ceil_le (mapError_eq_ok counted)
  rw [Binary64.ofQuotient, Binary64.ofRatio] at rounded
  exact isWritable_of_near (Binary64.lt_overflow_of_round rounded) near

namespace PageRequest

/-- A request whose number and size of a page can be written. -/
structure IsWritable (request : PageRequest) : Prop where
  /-- The first page is the first. -/
  first : 1 ≤ request.page
  /-- The number of the page can be written. -/
  page : Number.isWritable request.page = true
  /-- The size of the page can be written. -/
  limit : Number.isWritable request.limit = true

/-- What parameters ask for can be written if the largest size can. -/
theorem isWritable_ofParameters {options : Options}
    (largest : Number.isWritable options.limit = true) (parameters : Parameters) :
    (ofParameters parameters options).IsWritable where
  first := le_max_right _ _
  page := by
    have one : Number.isWritable 1 = true := isWritable_of_natAbs_lt (by decide)
    exact max_rec' (Number.isWritable · = true) (isWritable_integerOr one _) one
  limit := min_rec' (Number.isWritable · = true) (isWritable_integerOr largest _) largest

/-- The number of pages of a request can be written. -/
theorem isWritable_totalPages {request : PageRequest} {total pages : Int}
    (counted : request.totalPages total = .ok pages) : Number.isWritable pages = true := by
  rw [totalPages] at counted
  split at counted
  · exact isWritable_pagesOf counted
  · have short : (if total = 0 then 0 else 1 : Int).natAbs < 1000 := by
      split <;> decide
    cases counted
    exact isWritable_of_natAbs_lt short

end PageRequest

/-- The numbers of a page. -/
def Page.numbers (page : Page) : List Int :=
  [page.page, page.limit, page.total, page.totalPages] ++ page.next.toList ++ page.previous.toList

/-- The numbers of a page can be written where the request and the count can be. -/
theorem makePage_isWritable {request : PageRequest} (writable : request.IsWritable) {total : Int}
    (count : isWritable total = true) {items : List Value} {page : Page}
    (made : makePage request total items = .ok page) : ∀ n ∈ page.numbers, isWritable n = true := by
  obtain ⟨pages, counted, rfl⟩ := makePage_eq_ok made
  have told := PageRequest.isWritable_totalPages counted
  have first := writable.first
  simp only [Page.numbers, List.forall_mem_append, List.forall_mem_cons]
  refine ⟨⟨⟨writable.page, writable.limit, count, told, List.forall_mem_nil _⟩, ?_⟩, ?_⟩
  · split
    · next follows =>
      rw [Option.toList_some, List.forall_mem_singleton]
      exact isWritable_of_natAbs_le (by omega) told
    · exact List.forall_mem_nil _
  · split
    · next later =>
      rw [Option.toList_some, List.forall_mem_singleton]
      exact isWritable_of_natAbs_le (by omega) writable.page
    · exact List.forall_mem_nil _

/-- A page of objects is made of every count that a row can hold. -/
theorem exists_makePage_of_isEncodable (request : PageRequest) {total : Int} (counted : 0 ≤ total)
    (encodable : IsEncodable total) {items : List Value}
    (objects : ∀ item ∈ items, ∃ members, item = .object members) :
    ∃ page, makePage request total items = .ok page := by
  cases paged : request.isPaged with
  | false =>
    exact exists_makePage objects (by rw [PageRequest.totalPages, paged, if_neg Bool.false_ne_true])
  | true =>
    have sized := PageRequest.limit_pos paged
    obtain ⟨count, rfl⟩ := Int.eq_ofNat_of_zero_le counted
    obtain ⟨limit, size⟩ := Int.eq_ofNat_of_zero_le (Int.le_of_lt sized)
    have makes : (∃ page, makePage request count items = .ok page) ↔ _ :=
      exists_makePage_iff paged size objects
    exact makes.mpr (lt_tooLarge_of_isEncodable encodable (by omega))

/-- The last two calls count a list and fetch the rows of its page, and the engine answers both. -/
inductive EndsWithRows (engine : Engine) : List Call → Int → List Value → Prop
  /-- The count is told, and the rows come in. -/
  | intro {earlier : List Call} {collection : String} {counted paged : List Stage} {total : Int}
      {rows : List Value}
      (count : engine.total earlier (.counting collection counted) = .ok total)
      (found : engine (earlier ++ [.counting collection counted]) (.fetching collection paged) =
        .rows rows) :
      EndsWithRows engine
        (earlier ++ [.counting collection counted, .fetching collection paged]) total rows

/-- Among the calls is one without a bound on its rows. -/
theorem EndsWithRows.exists_unbounded {engine : Engine} {calls : List Call} {total : Int}
    {rows : List Value} (ends : EndsWithRows engine calls total rows) :
    ∃ call ∈ calls, call.length = none := by
  cases ends with
  | @intro _ collection _ paged => exact ⟨.fetching collection paged, by simp, rfl⟩

/-- A page that is asked for ends with rows where the count is told, the pipeline can be written and
the engine answers it. -/
theorem fetchPage_endsWithRows {engine : Engine} {collection : String} {page : PageRequest}
    {counted paged : List Stage} {trace : Trace} {total : Int} {rows : List Value}
    (asked : page.countOnly = false) (writable : canBeWritten paged = true)
    (count : engine.total trace.calls (.counting collection counted) = .ok total)
    (found : engine (trace.calls ++ [.counting collection counted])
      (.fetching collection paged) = .rows rows) (what : String) :
    EndsWithRows engine (fetchPage collection page counted paged what engine trace).2.calls total
      rows := by
  have run := fetchPage_cases engine collection page counted paged what trace
  generalize (fetchPage collection page counted paged what engine trace).1 = result at run
  generalize (fetchPage collection page counted paged what engine trace).2 = after at run ⊢
  cases run with
  | uncounted failed => cases failed.symm.trans count
  | countOnly flagged => cases flagged.symm.trans asked
  | unwritten _ _ unwritable => cases unwritable.symm.trans writable
  | unanswered _ _ _ failed =>
    rw [Engine.rows, Trace.calls_sent, found] at failed
    cases failed
  | fetched =>
    have ends := EndsWithRows.intro count found
    rw [List.append_cons] at ends
    exact ends

/-- A page that is fetched is made of the count and the rows that its calls end with. -/
theorem Fetched.eq_makePage {engine : Engine} {collection : String} {page : PageRequest}
    {counted paged : List Stage} {what : String} {trace after : Trace}
    {result : Except Failure Page}
    (step : Fetched engine collection page counted paged what trace result after) {total : Int}
    {rows : List Value} (ends : EndsWithRows engine after.calls total rows) :
    isWritable total = true ∧ result = makePage page total rows := by
  generalize same : after.calls = calls at ends
  cases ends with
  | @intro earlier other counts fetches _ _ count found =>
    rw [List.append_cons] at same
    cases step with
    | uncounted | countOnly | unwritten =>
      obtain ⟨-, last⟩ := List.append_inj' same rfl
      cases last
    | unanswered _ _ _ failed =>
      obtain ⟨front, last⟩ := List.append_inj' same rfl
      cases last
      rw [front, Engine.rows, found] at failed
      cases failed
    | fetched _ told _ received =>
      obtain ⟨front, last⟩ := List.append_inj' same rfl
      cases last
      obtain ⟨rfl, first⟩ := List.append_inj' front rfl
      rw [List.head_eq_of_cons_eq first] at told
      cases told.symm.trans count
      rw [front, Engine.rows, found] at received
      cases received
      exact ⟨Engine.isWritable_total count, rfl⟩

/-- A page of a collection is made of the count and the rows that its calls end with. -/
theorem fetchList_eq_makePage {engine : Engine} {collection : String} {request : Request}
    {options : Options} {initial final : List Stage} {total : Int} {rows : List Value}
    (ends : EndsWithRows engine
      ((fetchList collection request options initial final).run engine).2.calls total rows) :
    ∃ parameters, isWritable total = true ∧
      ((fetchList collection request options initial final).run engine).1 =
        makePage (.ofParameters parameters options) total rows := by
  have run := fetchList_cases engine collection request options initial final
  generalize ((fetchList collection request options initial final).run engine).1 = result at run ⊢
  generalize ((fetchList collection request options initial final).run engine).2 = after at run ends
  obtain ⟨call, mem, unbounded⟩ := ends.exists_unbounded
  cases run with
  | unread => cases mem
  | uncompiled _ builds => exact nomatch unbounded.symm.trans (builds.length_calls call mem)
  | compiled _ _ page => exact ⟨_, page.eq_makePage ends⟩

end QueryPipeline
