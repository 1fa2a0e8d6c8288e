import QueryPipeline.Fetch.Page
import QueryPipeline.Proofs.Failure
import QueryPipeline.Proofs.Number.Binary64

/-!
# What a page says

A page is cut out by a window, which depends on its number and its size alone. It repeats the number
and the size that were asked for, the count and the documents that it is made of. Whether a page
follows depends on the number of pages alone, and whether one comes before on the number of the page.
The number of pages is told by a rounded quotient; up to `2 ^ 53` documents a page still follows
exactly where documents are left.
-/

namespace QueryPipeline

open Document Number Pipeline

/-- The window of a page is left out where everything is asked for at once or the size of the page
is not positive. -/
theorem pageStages_eq (request : PageRequest) :
    pageStages request =
      if request.unpaged = true ∨ request.limit ≤ 0 then []
      else [.skip ((request.page - 1) * request.limit), .limit request.limit] := by
  have paged : request.isPaged = true ↔ ¬(request.unpaged = true ∨ request.limit ≤ 0) := by
    rw [PageRequest.isPaged, Bool.and_eq_true, Bool.not_eq_true', decide_eq_true_eq, not_or,
      Bool.not_eq_true, Int.not_le]
  rw [pageStages]
  by_cases whole : request.unpaged = true ∨ request.limit ≤ 0
  · rw [if_pos whole, if_neg (fun is => paged.mp is whole)]
  · rw [if_neg whole, if_pos (paged.mpr whole)]
    rfl

/-- The number of pages of up to `2 ^ 53` documents can be told, and it is above the number of a
page exactly where documents are left behind that page. -/
theorem pagesOf_natCast {total limit : Nat} (small : total ≤ 2 ^ 53) (sized : 0 < limit) :
    ∃ pages : Nat, pagesOf total limit = .ok (pages : Int) ∧
      ∀ page, 0 < page → (page < pages ↔ page * limit < total) := by
  refine ⟨_, by rw [pagesOf, Binary64.ofQuotient_natCast small sized, Binary64.ceil_finite,
    Except.mapError], ?_⟩
  intro page positive
  rw [Binary64.lt_ceil_iff]
  constructor
  · intro above
    by_contra enough
    have rounded := Binary64.nearest_le_of_le_mul small sized (Nat.le_of_not_lt enough)
    omega
  · intro left
    exact Binary64.lt_nearest_of_mul_lt positive small left sized

/-- A page is made where the number of pages can be told and all items are objects. -/
theorem makePage_eq_ok {request : PageRequest} {total : Int} {items : List Value} {page : Page}
    (made : makePage request total items = .ok page) :
    ∃ totalPages, request.totalPages total = .ok totalPages ∧ page =
      { page := request.page
        limit := request.limit
        total
        totalPages
        hasNext := request.page < totalPages
        hasPrevious := 1 < request.page
        next := if request.page < totalPages then some (request.page + 1) else none
        previous := if 1 < request.page then some (request.page - 1) else none
        items } := by
  obtain ⟨totalPages, counted, rest⟩ := bind_eq_ok made
  dsimp only at rest
  cases problems : itemProblems 0 items with
  | nil =>
    rw [problems] at rest
    cases rest
    exact ⟨totalPages, counted, rfl⟩
  | cons problem others =>
    rw [problems] at rest
    cases rest

/-- A page holds the items that it is made of. -/
theorem makePage_items {request : PageRequest} {total : Int} {items : List Value} {page : Page}
    (made : makePage request total items = .ok page) : page.items = items := by
  obtain ⟨totalPages, -, rfl⟩ := makePage_eq_ok made
  rfl

/-- A page names the count that it is made of. -/
theorem makePage_total {request : PageRequest} {total : Int} {items : List Value} {page : Page}
    (made : makePage request total items = .ok page) : page.total = total := by
  obtain ⟨totalPages, -, rfl⟩ := makePage_eq_ok made
  rfl

end QueryPipeline
