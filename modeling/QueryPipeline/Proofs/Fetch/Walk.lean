import QueryPipeline.Fetch.Walk
import QueryPipeline.Proofs.Fetch.Agreement
import QueryPipeline.Proofs.Request.Url

/-!
# Walks through a list

A walk goes from a page to the one beside it by the number that the page gives. All pages of a list
are asked for with the same parameters but that number, so their documents are counted alike, and
what is fetched differs in the number of documents that are left out. The windows of the pages are
of one size and follow one another up to the total: together they are the list.
-/

namespace QueryPipeline

open Document Number Pipeline Url

section

variable (engine : Engine) (collection : String) (options : Options)

-- A walk asks nothing of the fetch of a page but its outcome.
attribute [local irreducible] fetchList

/-- The step of a walk at a url. -/
def stepAt (url : String) : Step :=
  let run := (fetchList collection (.written url) options [] []).run engine
  ⟨url, run.1, run.2⟩

/-- The url that a walk goes on with after a step. -/
def Step.beside? (step : Step) (back : Bool) : Option String :=
  match step.page with
  | .ok page =>
    (page.beside back).bind fun number => (buildUrl step.url (.ofPage number)).toOption
  | .error _ => none

/-- The page of a step is the one that is fetched. -/
theorem stepAt_page (url : String) : (stepAt engine collection options url).page =
    ((fetchList collection (.written url) options [] []).run engine).1 := rfl

/-- A step does what the fetch of its page does. -/
theorem stepAt_trace (url : String) : (stepAt engine collection options url).trace =
    ((fetchList collection (.written url) options [] []).run engine).2 := rfl

/-- A walk takes the step at its url and goes on beside it, if there is a page. -/
theorem walk_succ (back : Bool) (steps : Nat) (url : String) :
    walk engine collection options back (steps + 1) url =
      stepAt engine collection options url ::
        match (stepAt engine collection options url).beside? back with
        | some next => walk engine collection options back steps next
        | none => [] := by
  rfl

/-- A walk takes the steps at urls of which each is beside the one before, and goes on. -/
theorem walk_add {back : Bool} {count : Nat} (urls : Nat → String)
    (goes : ∀ i < count,
      (stepAt engine collection options (urls i)).beside? back = some (urls (i + 1)))
    (steps : Nat) :
    walk engine collection options back (count + steps) (urls 0) =
      (List.range count).map (fun i => stepAt engine collection options (urls i)) ++
        walk engine collection options back steps (urls count) := by
  induction count generalizing steps with
  | zero => simp
  | succ count ih =>
    have last := goes count (Nat.lt_succ_self count)
    have front := ih (fun i before => goes i (Nat.lt_succ_of_lt before)) (steps + 1)
    rw [walk_succ, last] at front
    rw [show count + 1 + steps = count + (steps + 1) by omega, front, List.range_succ,
      List.map_append, List.map_singleton, List.append_assoc, List.singleton_append]

/-- A walk ends at a step with nothing beside it. -/
theorem walk_of_end {back : Bool} {url : String} {steps : Nat} (positive : 0 < steps)
    (ends : (stepAt engine collection options url).beside? back = none) :
    walk engine collection options back steps url = [stepAt engine collection options url] := by
  obtain ⟨rest, rfl⟩ : ∃ rest, steps = rest + 1 := ⟨steps - 1, by omega⟩
  rw [walk_succ, ends]

end

/-- The url of a list of pages, of which the given number of documents are on each. -/
structure PagedList (options : Options) (url : String) (parts : Url) (limit : Nat) : Prop where
  /-- The url is read as the parts. -/
  given : Url.read url.toList = .ok parts
  /-- The path is not taken for an authority. -/
  apart : parts.authority ≠ [] ∨ ¬['/', '/'] <+: parts.path
  /-- Not everything is asked for at once. -/
  unpaged : (PageRequest.ofParameters (Parameters.read parts.query) options).unpaged = false
  /-- Not only the count is asked for. -/
  countOnly : (PageRequest.ofParameters (Parameters.read parts.query) options).countOnly = false
  /-- The size of the pages is given. -/
  size : (PageRequest.ofParameters (Parameters.read parts.query) options).limit = limit
  /-- There is some document on a page. -/
  sized : 0 < limit

/-- The number of pages that hold some documents; there is always a first page. -/
def pageCount (total limit : Nat) : Nat := max 1 (total ⌈/⌉ limit)

/-- There is always a page. -/
theorem pageCount_pos (total limit : Nat) : 0 < pageCount total limit :=
  lt_max_of_lt_left Nat.one_pos

/-- A page is before the last one where documents are left behind it. -/
theorem lt_pageCount_iff {total limit number : Nat} (positive : 0 < limit) (first : 0 < number) :
    number < pageCount total limit ↔ number * limit < total := by
  have bound : total ⌈/⌉ limit ≤ number ↔ total ≤ number * limit := by
    rw [ceilDiv_le_iff_le_mul positive, Nat.mul_comm]
  rw [pageCount, lt_max_iff]
  omega

/-- The numbers of pages up to `2 ^ 54` can be written. -/
theorem isWritable_succ {earlier : Nat} (small : earlier ≤ 2 ^ 54) :
    isWritable ((earlier : Int) + 1) = true := by
  have few : earlier + 1 ≤ 2 ^ 55 := by omega
  have short : 2 ^ 55 < Nat.pow 10 maxDigits := by decide +kernel
  exact decide_eq_true (few.trans_lt short)

/-- The url of the page behind some pages of a list. -/
def urlAt (parts : Url) (earlier : Nat) : String := pageUrl parts ((earlier : Int) + 1)

/-- The first page has no page before it. -/
theorem urlAt_zero (parts : Url) : urlAt parts 0 = pageUrl parts 1 := by
  rw [urlAt, Int.natCast_zero, Int.zero_add]

/-- The filters of a list are the same for all its pages. -/
theorem confined_overriding (parameters : Parameters) (options : Options) (number : String) :
    (overriding parameters [(pageKey, number)]).confined options = parameters.confined options := by
  have other : ∀ pair ∈ [(pageKey, number)], pair.1 ≠ filterKey := by
    rw [List.forall_mem_singleton]
    exact show pageKey ≠ filterKey by decide
  rw [Parameters.confined, Parameters.filters, all_overriding other, Parameters.confined,
    Parameters.filters]

/-- The parameters of a request that is its url are those of the url. -/
theorem Request.parameters_written (url : String) :
    (Request.written url).parameters = readParameters url := by
  rw [Request.parameters, Request.url, Except.bind]

/-- The order of a list does not depend on the page. -/
theorem sortStage_page (request : PageRequest) (options : Options) (page : Int) :
    sortStage { request with page } options = sortStage request options := rfl

/-- The stages of a list before the window of a page. -/
def beforeWindow (parts : Url) (options : Options) (selected : List Stage) : List Stage :=
  selected ++ if hasStage "$sort" selected then []
    else [sortStage (.ofParameters (Parameters.read parts.query) options) options]

namespace PagedList

variable {options : Options} {url : String} {parts : Url} {limit : Nat}
  (list : PagedList options url parts limit)
include list

/-- The pipeline of a page is the same for all pages up to its window. -/
theorem pagePipeline_eq (selected : List Stage) (earlier : Nat) :
    pagePipeline { PageRequest.ofParameters (Parameters.read parts.query) options with
        page := (earlier : Int) + 1 } options ([] ++ selected) [] =
      beforeWindow parts options selected ++ [.skip (earlier * limit), .limit limit] := by
  have sized := list.sized
  have paged : ¬((PageRequest.ofParameters (Parameters.read parts.query) options).unpaged = true ∨
      (PageRequest.ofParameters (Parameters.read parts.query) options).limit ≤ 0) := by
    rw [list.unpaged, list.size]
    rintro (whole | empty)
    · cases whole
    · omega
  rw [pagePipeline, pageStages_eq, if_neg paged, List.append_nil, List.nil_append, beforeWindow,
    sortStage_page]
  dsimp only
  rw [list.size, Int.add_sub_cancel]

/-- The number of pages is told from the size of the pages. -/
theorem totalPages_eq (page total : Int) :
    PageRequest.totalPages { PageRequest.ofParameters (Parameters.read parts.query) options with
      page } total = pagesOf total limit := by
  have sized := list.sized
  rw [PageRequest.totalPages, PageRequest.isPaged]
  dsimp only
  rw [list.unpaged, list.size, Bool.not_false, Bool.true_and, if_pos (decide_eq_true (by omega))]

/-- The parameters of the url of a page. -/
theorem parameters_urlAt (earlier : Nat) :
    (Request.written (urlAt parts earlier)).parameters =
      .ok (overriding (Parameters.read parts.query)
        [(pageKey, decimalString ((earlier : Int) + 1))]) := by
  rw [Request.parameters_written, urlAt, readParameters_pageUrl list.given list.apart]

/-- What a step that succeeds says and does: the page has the number of the url, and the documents
are counted and fetched as they are for every other page, but for the number that is left out. -/
theorem step_of_ok {engine : Engine} {collection : String} {earlier : Nat} {page : Page}
    (writable : isWritable ((earlier : Int) + 1) = true)
    (succeeds : (stepAt engine collection options (urlAt parts earlier)).page = .ok page) :
    ∃ selected between pages,
      (compileShares collection ((Parameters.read parts.query).confined options)).run engine =
          (.ok selected, between) ∧
        engine.total between.calls (.counting collection selected) = .ok page.total ∧
        pagesOf page.total limit = .ok pages ∧ page.page = earlier + 1 ∧ page.limit = limit ∧
        page.next = (if (earlier : Int) + 1 < pages then some ((earlier : Int) + 1 + 1) else none) ∧
        page.previous = (if 1 < (earlier : Int) + 1 then some (earlier : Int) else none) ∧
        (stepAt engine collection options (urlAt parts earlier)).trace.calls =
          between.calls ++ [.counting collection selected] ++
            [.fetching collection (beforeWindow parts options selected ++
              [.skip (earlier * limit), .limit limit])] := by
  rw [stepAt_page] at succeeds
  obtain ⟨parameters, selected, between, read, compiled, -, fetched⟩ := fetchList_eq_ok succeeds
  rw [list.parameters_urlAt] at read
  cases read
  rw [confined_overriding] at compiled
  rw [ofParameters_overriding_page writable (by omega), list.pagePipeline_eq] at fetched
  obtain ⟨total, items, reported, made, ends⟩ := fetched.made
  obtain ⟨pages, counted, rfl⟩ := makePage_eq_ok made
  rw [list.totalPages_eq] at counted
  refine ⟨selected, between, pages, compiled, reported, counted, rfl, list.size, rfl, ?_, ?_⟩
  · dsimp only
    rw [Int.add_sub_cancel]
  · obtain ⟨only, -⟩ | ⟨-, -, calls⟩ := ends
    · exact absurd (only.symm.trans list.countOnly) (by decide)
    · rw [stepAt_trace, calls, List.nil_append, List.append_assoc, List.singleton_append]

/-- All steps that succeed are told the same total. -/
theorem total_eq {engine : Engine} {collection : String} {earlier : Nat} {first page : Page}
    (writable : isWritable ((earlier : Int) + 1) = true)
    (starts : (stepAt engine collection options (urlAt parts 0)).page = .ok first)
    (succeeds : (stepAt engine collection options (urlAt parts earlier)).page = .ok page) :
    page.total = first.total := by
  obtain ⟨_, _, _, alike, reported, -⟩ := list.step_of_ok (isWritable_succ (by decide)) starts
  obtain ⟨_, _, _, compiled, told, -⟩ := list.step_of_ok writable succeeds
  rw [alike] at compiled
  cases compiled
  exact Except.ok.inj (told.symm.trans reported)

/-- There are no more pages than documents, but always one. -/
theorem pageCount_le {total : Nat} (small : total ≤ 2 ^ 53) : pageCount total limit ≤ 2 ^ 53 := by
  have few : total ⌈/⌉ limit ≤ total :=
    (ceilDiv_le_iff_le_mul list.sized).mpr (Nat.le_mul_of_pos_left total list.sized)
  exact max_le (by decide) (few.trans small)

section

variable {engine : Engine} {collection : String} {earlier total : Nat} {page : Page}
  (small : total ≤ 2 ^ 53) (inside : earlier < pageCount total limit)
  (succeeds : (stepAt engine collection options (urlAt parts earlier)).page = .ok page)
include small inside succeeds

/-- The page that follows is named as long as there is one. -/
theorem next_eq (told : page.total = total) :
    page.next = if earlier + 1 < pageCount total limit then some ((earlier : Int) + 1 + 1)
      else none := by
  have most := list.pageCount_le small
  obtain ⟨_, _, pages, -, -, counted, -, -, next, -⟩ :=
    list.step_of_ok (isWritable_succ (by omega)) succeeds
  obtain ⟨bound, same, left⟩ := pagesOf_natCast small list.sized
  rw [told, same] at counted
  cases counted
  have before : (earlier : Int) + 1 < bound ↔ earlier + 1 < pageCount total limit := by
    rw [lt_pageCount_iff list.sized (Nat.succ_pos earlier), ← left _ (Nat.succ_pos earlier)]
    omega
  rw [next]
  exact if_congr before rfl rfl

/-- The page before is named as long as there is one. -/
theorem previous_eq :
    page.previous = if 0 < earlier then some (earlier : Int) else none := by
  have most := list.pageCount_le small
  obtain ⟨_, _, _, -, -, -, -, -, -, previous, -⟩ :=
    list.step_of_ok (isWritable_succ (by omega)) succeeds
  rw [previous]
  exact if_congr (by omega) rfl rfl

/-- A walk goes on behind a page as long as there is a page left. -/
theorem beside?_forth (told : page.total = total) :
    (stepAt engine collection options (urlAt parts earlier)).beside? false =
      if earlier + 1 < pageCount total limit then some (urlAt parts (earlier + 1)) else none := by
  have most := list.pageCount_le small
  have built : buildUrl (urlAt parts earlier) (.ofPage ((earlier : Int) + 1 + 1)) =
      .ok (urlAt parts (earlier + 1)) := by
    have number : ((earlier + 1 : Nat) : Int) + 1 = (earlier : Int) + 1 + 1 := by omega
    have writable : isWritable (((earlier + 1 : Nat) : Int) + 1) = true :=
      isWritable_succ (by omega)
    rw [number] at writable
    rw [urlAt, urlAt, number, buildUrl_pageUrl list.given list.apart _ writable]
  rw [Step.beside?, succeeds]
  change (page.next.bind fun number =>
    (buildUrl (urlAt parts earlier) (.ofPage number)).toOption) = _
  rw [list.next_eq small inside succeeds told]
  split
  · rw [Option.bind_some, built]
    rfl
  · rfl

/-- A walk back goes on before a page as long as it is not the first. -/
theorem beside?_back :
    (stepAt engine collection options (urlAt parts earlier)).beside? true =
      if 0 < earlier then some (urlAt parts (earlier - 1)) else none := by
  have most := list.pageCount_le small
  rw [Step.beside?, succeeds]
  change (page.previous.bind fun number =>
    (buildUrl (urlAt parts earlier) (.ofPage number)).toOption) = _
  rw [list.previous_eq small inside succeeds]
  split
  · next behind =>
    have number : ((earlier - 1 : Nat) : Int) + 1 = earlier := by omega
    have writable : isWritable (((earlier - 1 : Nat) : Int) + 1) = true :=
      isWritable_succ (by omega)
    rw [number] at writable
    rw [Option.bind_some, urlAt, urlAt, number, buildUrl_pageUrl list.given list.apart _ writable]
    rfl
  · rfl

end

section

variable {engine : Engine} {collection : String} {total : Nat} {first : Page}
  (small : total ≤ 2 ^ 53)
  (starts : (stepAt engine collection options (urlAt parts 0)).page = .ok first)
  (told : first.total = total)
  (succeeds : ∀ step ∈ walk engine collection options false (pageCount total limit)
    (urlAt parts 0), ∃ page, step.page = .ok page)
include small starts told succeeds

/-- Every page of a list is fetched where the steps of the walk succeed: the walk gets to it from
the pages before it. -/
theorem ok_of_walk {earlier : Nat} (inside : earlier < pageCount total limit) :
    ∃ page, (stepAt engine collection options (urlAt parts earlier)).page = .ok page ∧
      page.total = total := by
  -- The pages before lead on to this one, so its step is among those of the walk.
  induction earlier using Nat.strongRecOn with
  | ind earlier ih =>
    have most := list.pageCount_le small
    have goes : ∀ i < earlier,
        (stepAt engine collection options (urlAt parts i)).beside? false =
          some (urlAt parts (i + 1)) := by
      intro i before
      obtain ⟨page, found, same⟩ := ih i before (before.trans inside)
      rw [list.beside?_forth small (before.trans inside) found same, if_pos (by omega)]
    have passed := walk_add engine collection options (urlAt parts) goes
      (pageCount total limit - earlier - 1 + 1)
    rw [show earlier + (pageCount total limit - earlier - 1 + 1) = pageCount total limit by omega,
      walk_succ] at passed
    obtain ⟨page, found⟩ := succeeds (stepAt engine collection options (urlAt parts earlier)) (by
      rw [passed]
      exact List.mem_append_right _ List.mem_cons_self)
    exact ⟨page, found, (list.total_eq (isWritable_succ (by omega)) starts found).trans told⟩

/-- A walk takes the steps at all pages of a list in order and ends. -/
theorem walk_forth {steps : Nat} (enough : pageCount total limit ≤ steps) :
    walk engine collection options false steps (urlAt parts 0) =
      (List.range (pageCount total limit)).map fun earlier =>
        stepAt engine collection options (urlAt parts earlier) := by
  have positive := pageCount_pos total limit
  have beside : ∀ i < pageCount total limit,
      (stepAt engine collection options (urlAt parts i)).beside? false =
        if i + 1 < pageCount total limit then some (urlAt parts (i + 1)) else none := by
    intro i inside
    obtain ⟨page, found, same⟩ := list.ok_of_walk small starts told succeeds inside
    exact list.beside?_forth small inside found same
  obtain ⟨last, count⟩ : ∃ last, pageCount total limit = last + 1 :=
    ⟨pageCount total limit - 1, by omega⟩
  rw [count] at beside enough ⊢
  have goes : ∀ i < last, (stepAt engine collection options (urlAt parts i)).beside? false =
      some (urlAt parts (i + 1)) := fun i before => by
    rw [beside i (by omega), if_pos (by omega)]
  have ends : (stepAt engine collection options (urlAt parts last)).beside? false = none := by
    rw [beside last (by omega), if_neg (by omega)]
  have passed := walk_add engine collection options (urlAt parts) goes (steps - last)
  rw [show last + (steps - last) = steps by omega,
    walk_of_end engine collection options (by omega) ends] at passed
  rw [passed, List.range_succ, List.map_append, List.map_singleton]

/-- A walk back from a page takes the steps at the pages down to the first and ends. -/
theorem walk_back {earlier steps : Nat} (inside : earlier < pageCount total limit)
    (enough : earlier < steps) :
    walk engine collection options true steps (urlAt parts earlier) =
      ((List.range (earlier + 1)).map fun earlier =>
        stepAt engine collection options (urlAt parts earlier)).reverse := by
  have beside : ∀ i < pageCount total limit,
      (stepAt engine collection options (urlAt parts i)).beside? true =
        if 0 < i then some (urlAt parts (i - 1)) else none := by
    intro i inside
    obtain ⟨page, found, -⟩ := list.ok_of_walk small starts told succeeds inside
    exact list.beside?_back small inside found
  induction earlier generalizing steps with
  | zero =>
    rw [walk_of_end engine collection options enough (by rw [beside 0 inside, if_neg (by omega)])]
    rfl
  | succ earlier ih =>
    obtain ⟨rest, rfl⟩ : ∃ rest, steps = rest + 1 := ⟨steps - 1, by omega⟩
    have further := ih (by omega : earlier < pageCount total limit) (by omega : earlier < rest)
    rw [walk_succ, beside _ inside, if_pos (Nat.succ_pos earlier), Nat.add_sub_cancel,
      List.range_succ, List.map_append, List.map_singleton, List.reverse_append,
      List.reverse_singleton, List.singleton_append]
    exact congrArg _ further

end

end PagedList

/-- A row is in the window of one page alone, which is among those that are counted. -/
theorem existsUnique_window {row total limit : Nat} (inside : row < total) (sized : 0 < limit) :
    ∃! earlier, earlier < pageCount total limit ∧
      earlier * limit ≤ row ∧ row < (earlier + 1) * limit := by
  refine ⟨row / limit, ⟨?_, Nat.div_mul_le_self row limit, ?_⟩, ?_⟩
  · have after : row / limit * limit < total := (Nat.div_mul_le_self row limit).trans_lt inside
    obtain none | some := Nat.eq_zero_or_pos (row / limit)
    · rw [none]
      exact pageCount_pos total limit
    · exact (lt_pageCount_iff sized some).mpr after
  · rw [Nat.mul_comm]
    exact Nat.lt_mul_div_succ row sized
  · rintro earlier ⟨-, low, high⟩
    exact (Nat.div_eq_of_lt_le low high).symm

/-- A walk through a list tiles it. The walk starts at the url that is made for the first page and
ends after as many steps as there are pages, however many steps are allowed. Each step is at the url
made for its page, and its page has the next number and names the pages beside it. The calls of the
steps are the same but for the number of documents left out by the call for the page, so that every
row up to the total is in the window of one step alone. A walk back from any step takes the steps
before it in reverse. -/
theorem walk_tiles_list {engine : Engine} {collection : String} {options : Options} {url : String}
    {parts : Url} {limit total : Nat} {page : Page} (list : PagedList options url parts limit)
    (small : total ≤ 2 ^ 53)
    (starts : ((fetchList collection (.written (pageUrl parts 1)) options [] []).run engine).1 =
      .ok page)
    (reported : page.total = total)
    (succeeds : ∀ step ∈ walk engine collection options false (pageCount total limit)
      (pageUrl parts 1), ∃ page, step.page = .ok page) :
    let steps := walk engine collection options false (pageCount total limit) (pageUrl parts 1)
    buildUrl url (.ofPage 1) = .ok (pageUrl parts 1) ∧
      steps.length = pageCount total limit ∧
      (∀ fuel, pageCount total limit ≤ fuel →
        walk engine collection options false fuel (pageUrl parts 1) = steps) ∧
      (∃ before front, ∀ (earlier : Nat) (step : Step), steps[earlier]? = some step →
        buildUrl url (.ofPage (earlier + 1)) = .ok step.url ∧
          (∃ page, step.page = .ok page ∧ page.page = earlier + 1 ∧ page.limit = limit ∧
            page.total = total ∧
            page.next =
              (if earlier + 1 < pageCount total limit then some ((earlier : Int) + 2) else none) ∧
            page.previous = (if 0 < earlier then some (earlier : Int) else none)) ∧
          step.trace.calls = before ++
            [.fetching collection (front ++ [.skip (earlier * limit), .limit limit])] ∧
          ∀ fuel : Nat, earlier < fuel →
            walk engine collection options true fuel step.url =
              (steps.take (earlier + 1)).reverse) ∧
      ∀ row < total, ∃! earlier, earlier < steps.length ∧
        earlier * limit ≤ row ∧ row < (earlier + 1) * limit := by
  rw [← stepAt_page, ← urlAt_zero] at starts
  rw [← urlAt_zero] at succeeds ⊢
  intro steps
  have walked (fuel : Nat) (enough : pageCount total limit ≤ fuel) :=
    list.walk_forth small starts reported succeeds enough
  have all : steps = (List.range (pageCount total limit)).map fun earlier =>
      stepAt engine collection options (urlAt parts earlier) :=
    walked _ le_rfl
  have length : steps.length = pageCount total limit := by
    rw [all, List.length_map, List.length_range]
  obtain ⟨selected, between, -, alike, -⟩ :=
    list.step_of_ok (isWritable_succ (by decide)) starts
  have first : buildUrl url (.ofPage 1) = .ok (urlAt parts 0) := by
    rw [urlAt_zero, buildUrl_ofPage list.given (by decide +kernel)]
  refine ⟨first, length, fun fuel enough => (walked fuel enough).trans all.symm,
    ⟨between.calls ++ [.counting collection selected], beforeWindow parts options selected, ?_⟩,
    fun row inside => length ▸ existsUnique_window inside list.sized⟩
  intro earlier step at_
  have inside : earlier < pageCount total limit :=
    length ▸ (List.getElem?_eq_some_iff.mp at_).1
  have most := list.pageCount_le small
  have writable : isWritable ((earlier : Int) + 1) = true := isWritable_succ (by omega)
  rw [all, List.getElem?_map, List.getElem?_range inside, Option.map_some] at at_
  cases at_
  obtain ⟨page, found, same⟩ := list.ok_of_walk small starts reported succeeds inside
  obtain ⟨_, _, _, compiled, -, -, number, size, -, -, calls⟩ := list.step_of_ok writable found
  rw [alike] at compiled
  cases compiled
  refine ⟨buildUrl_ofPage list.given writable, ⟨page, found, number, size, same, ?_, ?_⟩, calls, ?_⟩
  · exact list.next_eq small inside found same
  · exact list.previous_eq small inside found
  · intro fuel enough
    rw [all, ← List.map_take, List.take_range, Nat.min_eq_left inside]
    exact list.walk_back small starts reported succeeds inside enough

/-- The url of a list with two documents on a page. -/
def itemsUrl : String := "/items?filter=a+b%7Cstring%7Ceq%7Cx&limit=2&page=9"

/-- The parts of the url. -/
def itemsParts : Url := Url.split itemsUrl.toList

/-- The list has two documents on a page. -/
theorem itemsList : PagedList .default itemsUrl itemsParts 2 where
  given := by decide +kernel
  apart := by decide +kernel
  unpaged := by decide +kernel
  countOnly := by decide +kernel
  size := by decide +kernel
  sized := Nat.two_pos

/-- An engine that counts five documents and yields one. -/
def fiveEngine : Engine :=
  .scripted [.rows [.object [("total", .int 5)]], .rows [.object [("id", .int 1)]]]

/-- Five documents with two on a page are walked through in three steps. -/
theorem items_walk_tiles :
    let steps := walk fiveEngine "items" .default false 3 (pageUrl itemsParts 1)
    steps.length = 3 ∧
      walk fiveEngine "items" .default false 100 (pageUrl itemsParts 1) = steps ∧
      ∃ before front, ∀ (earlier : Nat) (step : Step), steps[earlier]? = some step →
        step.trace.calls = before ++
          [.fetching "items" (front ++ [.skip (earlier * 2), .limit 2])] := by
  have count : pageCount 5 2 = 3 := by decide
  have told : (((fetchList "items" (.written (pageUrl itemsParts 1)) .default [] []).run
      fiveEngine).1.toOption.map (·.total)) = some 5 := by decide +kernel
  have steps : ∀ step ∈ walk fiveEngine "items" .default false 3 (pageUrl itemsParts 1),
      step.page.toOption.isSome := by decide +kernel
  obtain ⟨page, found, reported⟩ := Option.map_eq_some_iff.mp told
  have succeeds : ∀ step ∈ walk fiveEngine "items" .default false (pageCount 5 2)
      (pageUrl itemsParts 1), ∃ page, step.page = .ok page := by
    rw [count]
    intro step mem
    obtain ⟨page, found⟩ := Option.isSome_iff_exists.mp (steps step mem)
    exact ⟨page, eq_ok_of_toOption found⟩
  obtain ⟨-, length, ends, ⟨before, front, alike⟩, -⟩ :=
    walk_tiles_list itemsList (by decide : 5 ≤ 2 ^ 53) (eq_ok_of_toOption found) reported succeeds
  rw [count] at length ends alike
  exact ⟨length, ends 100 (by decide), before, front,
    fun earlier step mem => (alike earlier step mem).2.2.1⟩

end QueryPipeline
