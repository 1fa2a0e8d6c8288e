import QueryPipeline.Proofs.Fetch.Page
import QueryPipeline.Proofs.Fetch.Range
import QueryPipeline.Proofs.Pipeline.Window

/-!
# The pages beside a page

A page names the pages beside it by its number and the count alone, while the stages of its window
are made elsewhere. Where a list is cut into pages both agree: a page follows if rows are left
behind the window, and one comes before if the window leaves out rows in front. A list that is not
cut up has one window for every page. No page follows there, but every page except the first names
one before it, which shows the same rows again.
-/

namespace QueryPipeline

open Document Number Pipeline Url

namespace PageRequest

/-- The window that the stages of a page cut out. -/
def window (request : PageRequest) : Window := .ofStages (pageStages request)

/-- The same request for the page with a number. -/
def onPage (request : PageRequest) (number : Int) : PageRequest := { request with page := number }

variable {request : PageRequest}

/-- A list that is not cut into pages has one window. -/
theorem window_of_unpaged (whole : request.isPaged = false) : request.window = .all := by
  rw [window, pageStages, whole]
  rfl

/-- The window of a page lies behind those of the pages before it, all of one size. -/
theorem window_of_paged (paged : request.isPaged = true) {earlier limit : Nat}
    (number : request.page = earlier + 1) (size : request.limit = limit) :
    request.window = ⟨earlier * limit, some limit⟩ := by
  have skipped : request.skip = (earlier * limit : Nat) := by
    rw [skip, number, size, Int.add_sub_cancel, Int.natCast_mul]
  rw [window, pageStages, if_pos paged, Window.ofStages_skip_limit, skipped, size,
    Int.toNat_natCast, Int.toNat_natCast]

/-- A list that is cut into pages has a positive size of a page. -/
theorem limit_pos (paged : request.isPaged = true) : 0 < request.limit := by
  rw [isPaged, Bool.and_eq_true, decide_eq_true_eq] at paged
  exact paged.2

section

variable (first : 1 ≤ request.page)
include first

/-- The stages of a page cut out windows. -/
theorem isWindow_of_mem_pageStages : ∀ stage ∈ pageStages request, stage.IsWindow := by
  rw [pageStages]
  split
  · next paged =>
    have sized := limit_pos paged
    rw [List.forall_mem_cons, List.forall_mem_singleton]
    exact ⟨Int.mul_nonneg (by omega) (by omega), show 0 ≤ request.limit by omega⟩
  · exact List.forall_mem_nil _

/-- The window of a page among several is told by the number of pages before it and their size. -/
theorem exists_window (paged : request.isPaged = true) :
    ∃ earlier limit : Nat, request.page = earlier + 1 ∧ request.limit = limit ∧ 0 < limit ∧
      request.window = ⟨earlier * limit, some limit⟩ := by
  have sized := limit_pos paged
  obtain ⟨earlier, before⟩ := Int.eq_ofNat_of_zero_le (show 0 ≤ request.page - 1 by omega)
  obtain ⟨limit, size⟩ := Int.eq_ofNat_of_zero_le (show 0 ≤ request.limit by omega)
  have number : request.page = earlier + 1 := by omega
  exact ⟨earlier, limit, number, size, by omega, window_of_paged paged number size⟩

/-- The number of pages of up to `2 ^ 53` documents can be told, and it is above that of a page
exactly where documents are left behind its window. -/
theorem exists_totalPages {total : Nat} (small : total ≤ 2 ^ 53) :
    ∃ pages, request.totalPages total = .ok pages ∧
      (request.page < pages ↔ ∃ row < total, request.window.EndsBefore row) := by
  cases paged : request.isPaged with
  | true =>
    obtain ⟨earlier, limit, number, size, sized, window⟩ := exists_window first paged
    obtain ⟨pages, counted, left⟩ := pagesOf_natCast small sized
    refine ⟨pages, by rw [totalPages, if_pos paged, size, counted], ?_⟩
    have behind : request.page < pages ↔ (earlier + 1) * limit < total := by
      rw [← left (earlier + 1) (Nat.succ_pos earlier), number]
      omega
    have last : earlier * limit + limit = (earlier + 1) * limit := (Nat.succ_mul _ _).symm
    rw [behind, window]
    simp only [Window.endsBefore_iff, last]
    constructor
    · exact fun rest => ⟨_, rest, le_rfl⟩
    · rintro ⟨row, inside, ended⟩
      exact ended.trans_lt inside
  | false =>
    refine ⟨_, by rw [totalPages, paged, if_neg Bool.false_ne_true], ?_⟩
    rw [window_of_unpaged paged]
    refine iff_of_false ?_ ?_
    · split <;> omega
    · rintro ⟨row, -, ended⟩
      exact Window.not_endsBefore_all row ended

/-- The window of a page starts the list exactly where the page is the first or the list is not cut
into pages. -/
theorem window_first_eq_zero_iff :
    request.window.first = 0 ↔ request.page = 1 ∨ request.isPaged = false := by
  cases paged : request.isPaged with
  | true =>
    obtain ⟨earlier, limit, number, -, sized, window⟩ := exists_window first paged
    have positive : limit ≠ 0 := by omega
    rw [window, number]
    simp only [Nat.mul_eq_zero, positive, or_false, Bool.true_eq_false]
    omega
  | false =>
    rw [window_of_unpaged paged]
    exact iff_of_true rfl (.inr rfl)

/-- The windows of different pages of a list have no row in common. -/
theorem not_holds_onPage (paged : request.isPaged = true) {number : Int} (other : 1 ≤ number)
    (different : number ≠ request.page) {row : Nat} (holds : request.window.Holds row) :
    ¬(request.onPage number).window.Holds row := by
  obtain ⟨earlier, limit, own, size, sized, window⟩ := exists_window first paged
  obtain ⟨before, count⟩ := Int.eq_ofNat_of_zero_le (show 0 ≤ number - 1 by omega)
  have beside : (request.onPage number).page = before + 1 := show number = before + 1 by omega
  have same : (request.onPage number).isPaged = true := paged
  rw [window, Window.holds_page_iff sized] at holds
  rw [window_of_paged same beside size, Window.holds_page_iff sized]
  omega

end

end PageRequest

/-- Objects are no problem for a page. -/
theorem itemProblems_of_objects {items : List Value}
    (objects : ∀ item ∈ items, ∃ members, item = .object members) (position : Nat) :
    itemProblems position items = [] := by
  induction items generalizing position with
  | nil => rfl
  | cons item rest ih =>
    obtain ⟨members, rfl⟩ := objects item List.mem_cons_self
    exact ih (fun item mem => objects item (List.mem_cons_of_mem _ mem)) (position + 1)

/-- A page of objects is made where the number of pages can be told. -/
theorem exists_makePage {request : PageRequest} {total pages : Int} {items : List Value}
    (objects : ∀ item ∈ items, ∃ members, item = .object members)
    (counted : request.totalPages total = .ok pages) :
    ∃ page, makePage request total items = .ok page := by
  have sound := itemProblems_of_objects objects 0
  rw [makePage, counted]
  simp only [bind, Except.bind, sound]
  exact ⟨_, rfl⟩

/-- What the links of a page say about its window, for every request that a url makes and up to
`2 ^ 53` documents. The page is made, its stages keep the rows of its window, and a page follows
exactly where some row lies behind the window. Where the list is cut into pages, or on the first
page, a page comes before exactly where the window does not start the list. Where the list is not
cut up, the window is the whole list on every page, and yet each page but the first names one before
it. The links give the numbers beside that of the page, and the windows of different pages of a list
that is cut up have no row in common. -/
theorem page_links_describe_window {url : String} {options : Options} {request : PageRequest}
    (read : PageRequest.ofUrl url options = .ok request) {total : Nat} (small : total ≤ 2 ^ 53)
    {items : List Value} (objects : ∀ item ∈ items, ∃ members, item = .object members) :
    ∃ page, makePage request total items = .ok page ∧
      (∀ (Row : Type) (reading : WindowReading Row) (rows : List Row),
        reading.run (pageStages request) rows = request.window.rows rows) ∧
      (page.hasNext = true ↔ ∃ row < total, request.window.EndsBefore row) ∧
      (request.isPaged = true ∨ request.page = 1 →
        (page.hasPrevious = true ↔ request.window.first ≠ 0)) ∧
      (request.isPaged = false →
        request.window = .all ∧ (page.hasPrevious = true ↔ request.page ≠ 1)) ∧
      page.next = (if page.hasNext then some (request.page + 1) else none) ∧
      page.previous = (if page.hasPrevious then some (request.page - 1) else none) ∧
      (request.isPaged = true → ∀ number, 1 ≤ number → number ≠ request.page →
        ∀ row ∈ request.window.rows (List.range total),
          row ∉ (request.onPage number).window.rows (List.range total)) := by
  obtain ⟨parameters, -, rfl⟩ := map_eq_ok read
  have first := PageRequest.one_le_page parameters options
  generalize PageRequest.ofParameters parameters options = request at first ⊢
  obtain ⟨pages, counted, left⟩ := PageRequest.exists_totalPages first small
  obtain ⟨page, made⟩ := exists_makePage objects counted
  obtain ⟨pages', same, rfl⟩ := makePage_eq_ok made
  obtain rfl : pages = pages' := Except.ok.inj (counted.symm.trans same)
  have starts := PageRequest.window_first_eq_zero_iff first
  refine ⟨_, made, ?_, ?_, ?_, ?_, ?_, ?_, ?_⟩
  · intro Row reading rows
    exact reading.run_eq_rows (PageRequest.isWindow_of_mem_pageStages first) rows
  · rw [decide_eq_true_eq, left]
  · intro cut
    rw [decide_eq_true_eq, Ne, starts]
    obtain paged | one := cut
    · simp only [paged, Bool.true_eq_false, or_false]
      omega
    · exact iff_of_false (by omega) (fun later => later (.inl one))
  · intro whole
    rw [decide_eq_true_eq]
    exact ⟨PageRequest.window_of_unpaged whole, by omega⟩
  · simp only [decide_eq_true_eq]
  · simp only [decide_eq_true_eq]
  · intro paged number other different row mem again
    have held := (Window.mem_rows_range.mp mem).2
    have repeated := (Window.mem_rows_range.mp again).2
    exact PageRequest.not_holds_onPage first paged other different held repeated

/-- A request for the second page, twenty to a page. -/
def secondRequest : PageRequest := ⟨2, 20, none, none, [], none, false, false⟩

/-- The second page of 45 documents is between two others, and the third shows none of its rows. -/
theorem second_page_linked :
    PageRequest.ofUrl "/items?page=2&limit=20" .default = .ok secondRequest ∧ 45 ≤ 2 ^ 53 ∧
      (∀ item ∈ [single "id" (.int 21)], ∃ members, item = .object members) ∧
      ∃ page, makePage secondRequest 45 [single "id" (.int 21)] = .ok page ∧
        page.next = some 3 ∧ page.previous = some 1 ∧
        ∀ row ∈ secondRequest.window.rows (List.range 45),
          row ∉ (secondRequest.onPage 3).window.rows (List.range 45) := by
  have read : PageRequest.ofUrl "/items?page=2&limit=20" .default = .ok secondRequest :=
    eq_ok_of_toOption (by decide +kernel)
  have small : 45 ≤ 2 ^ 53 := by decide
  have objects : ∀ item ∈ [single "id" (.int 21)], ∃ members, item = .object members := by
    rw [List.forall_mem_singleton]
    exact ⟨_, rfl⟩
  have paged : secondRequest.isPaged = true := rfl
  have window : secondRequest.window = ⟨20, some 20⟩ := rfl
  obtain ⟨page, made, -, left, starts, -, next, previous, apart⟩ :=
    page_links_describe_window read small objects
  have follows : page.hasNext = true :=
    left.mpr ⟨40, by decide, by rw [window, Window.endsBefore_iff]⟩
  have behind : page.hasPrevious = true :=
    (starts (.inl paged)).mpr (by rw [window]; decide)
  rw [follows] at next
  rw [behind] at previous
  exact ⟨read, small, objects, page, made, next, previous, apart paged 3 (by decide) (by decide)⟩

/-- A request for everything at once that names the third page. -/
def wholeRequest : PageRequest := ⟨3, 250, none, none, [], none, true, false⟩

/-- The whole list starts with its first row, and yet it names a page before it, which is the whole
list again. -/
theorem whole_list_linked :
    PageRequest.ofUrl "/items?export=true&page=3" .default = .ok wholeRequest ∧
      ∃ page, makePage wholeRequest 10 [] = .ok page ∧
        ¬(page.hasPrevious = true ↔ wholeRequest.window.first ≠ 0) ∧ page.previous = some 2 ∧
        (wholeRequest.onPage 2).window = wholeRequest.window :=
  ⟨eq_ok_of_toOption (by decide +kernel), _, rfl, by decide, rfl, rfl⟩

end QueryPipeline
