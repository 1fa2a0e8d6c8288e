import Mathlib.Order.Bounds.Basic
import QueryPipeline.Proofs.Document.Encoding
import QueryPipeline.Proofs.Fetch.Links
import QueryPipeline.Proofs.Number.Ceiling

/-!
# How many pages there are

The number of pages is the whole number above a quotient that is rounded, so it is not always the
least number of pages that hold all documents. It is so exactly where the whole number above the
quotient is told by what the quotient is rounded to, and always for up to `2 ^ 53` documents. There
the last page is the one that no page follows. Elsewhere a last page can be out of reach, with at
most one document in `2 ^ 53` left behind. Every count that a row can hold has a number of pages.
-/

namespace QueryPipeline

open Document Number

/-- The number of pages is that of a rounded quotient, where this is finite. -/
theorem pagesOf_eq (total limit : Nat) :
    pagesOf total limit =
      if Binary64.nearest (total * Binary64.one) limit < Binary64.overflow then
        .ok ((Binary64.nearest (total * Binary64.one) limit + Binary64.one - 1) /
          Binary64.one : Nat)
      else .error .quotientTooLarge := by
  rw [pagesOf, Binary64.ofQuotient_eq_round, Binary64.round]
  split
  · rw [Binary64.ceil_finite]
    rfl
  · rfl

/-- The whole number above a quotient is the least number of pages that hold all documents. -/
theorem isLeast_ceilDiv {total limit : Nat} (sized : 0 < limit) :
    IsLeast {pages : Int | (total : Int) ≤ pages * limit} (total ⌈/⌉ limit : Nat) := by
  constructor
  · have holds : total ≤ limit * (total ⌈/⌉ limit) := (ceilDiv_le_iff_le_mul sized).mp le_rfl
    rw [Nat.mul_comm] at holds
    show (total : Int) ≤ (total ⌈/⌉ limit : Nat) * limit
    exact_mod_cast holds
  · intro pages holds
    have enough : (total : Int) ≤ pages * limit := holds
    have positive : (0 : Int) < limit := Int.natCast_pos.mpr sized
    have counted : 0 ≤ pages := by
      by_contra below
      have negative := Int.mul_neg_of_neg_of_pos (Int.not_le.mp below) positive
      omega
    obtain ⟨count, rfl⟩ := Int.eq_ofNat_of_zero_le counted
    rw [Int.ofNat_le, ceilDiv_le_iff_le_mul sized, Nat.mul_comm]
    exact_mod_cast enough

/-- A page is not below the least number of pages exactly where the pages up to it hold all
documents. -/
theorem le_iff_of_isLeast {total limit pages : Int} (sized : 0 ≤ limit)
    (least : IsLeast {count : Int | total ≤ count * limit} pages) {number : Int} :
    pages ≤ number ↔ total ≤ number * limit := by
  constructor
  · exact fun later => least.1.trans (Int.mul_le_mul_of_nonneg_right later sized)
  · exact fun enough => least.2 enough

/-- The number of pages, where it can be told, is the whole number above the rounded quotient. -/
theorem pagesOf_eq_ok_iff {total limit : Nat} (sized : 0 < limit) {pages : Int} :
    pagesOf total limit = .ok pages ↔ total < Binary64.tooLarge * limit ∧
      pages = ((Binary64.nearest (total * Binary64.one) limit + Binary64.one - 1) /
        Binary64.one : Nat) := by
  rw [pagesOf_eq, ← Binary64.nearest_lt_overflow_iff sized]
  split
  · next fits => rw [and_iff_right fits, Except.ok.injEq, eq_comm]
  · next beyond => exact iff_of_false nofun fun told => beyond told.1

/-- A count that a row can hold has a quotient that is not too large. -/
theorem lt_tooLarge_of_isEncodable {total limit : Nat} (encodable : IsEncodable total)
    (sized : 0 < limit) : total < Binary64.tooLarge * limit := by
  have great := Binary64.two_pow_lt_tooLarge
  have most := Nat.le_mul_of_pos_right Binary64.tooLarge sized
  have bounded := encodable.2
  omega

section

variable {request : PageRequest} (paged : request.isPaged = true) {total limit : Nat}
  (size : request.limit = limit) {items : List Value}

include paged size

/-- The size of the pages of a list that is cut up is positive. -/
theorem PageRequest.limit_natCast_pos : 0 < limit := by
  have sized := PageRequest.limit_pos paged
  omega

/-- The number of pages of a list that is cut up is told from the size of the pages. -/
theorem PageRequest.totalPages_of_paged : request.totalPages total = pagesOf total limit := by
  rw [totalPages, if_pos paged, size]

/-- A page of objects is made where the quotient is not too large. -/
theorem exists_makePage_iff (objects : ∀ item ∈ items, ∃ members, item = .object members) :
    (∃ page, makePage request total items = .ok page) ↔ total < Binary64.tooLarge * limit := by
  have sized := PageRequest.limit_natCast_pos paged size
  have asked : request.totalPages total = _ := PageRequest.totalPages_of_paged paged size
  constructor
  · rintro ⟨page, made⟩
    obtain ⟨pages, counted, -⟩ := makePage_eq_ok made
    rw [asked] at counted
    exact ((pagesOf_eq_ok_iff sized).mp counted).1
  · intro fits
    exact exists_makePage objects (asked.trans ((pagesOf_eq_ok_iff sized).mpr ⟨fits, rfl⟩))

/-- The number of pages of a page that is made is the whole number above the rounded quotient. -/
theorem totalPages_of_makePage {page : Page} (made : makePage request total items = .ok page) :
    page.totalPages = ((Binary64.nearest (total * Binary64.one) limit + Binary64.one - 1) /
        Binary64.one : Nat) ∧
      (page.next = none ↔ page.totalPages ≤ request.page) := by
  have sized := PageRequest.limit_natCast_pos paged size
  have asked : request.totalPages total = _ := PageRequest.totalPages_of_paged paged size
  obtain ⟨pages, counted, rfl⟩ := makePage_eq_ok made
  rw [asked, pagesOf_eq_ok_iff sized] at counted
  refine ⟨counted.2, ?_⟩
  dsimp only
  split
  · next follows => exact iff_of_false nofun (by omega)
  · next last => exact iff_of_true rfl (by omega)

/-- When the number of pages is exact. A page of objects is made where the quotient is not too
large, so for every count that a row can hold. Its number of pages is the least that hold all
documents exactly where the whole number above the quotient is told by what it is rounded to, which
it is for up to `2 ^ 53` documents. Then no page follows exactly where the pages so far hold all
documents. In any case at most one document in `2 ^ 53` is on none of the pages. -/
theorem page_count_exact_iff (objects : ∀ item ∈ items, ∃ members, item = .object members) :
    ((∃ page, makePage request total items = .ok page) ↔ total < Binary64.tooLarge * limit) ∧
      (IsEncodable total → ∃ page, makePage request total items = .ok page) ∧
      (total ≤ 2 ^ 53 → limit ≤ Binary64.one → Binary64.CeilIsTold total limit) ∧
      ∀ page, makePage request total items = .ok page →
        (IsLeast {pages : Int | (total : Int) ≤ pages * limit} page.totalPages ↔
          Binary64.CeilIsTold total limit) ∧
        (Binary64.CeilIsTold total limit →
          (page.next = none ↔ (total : Int) ≤ request.page * limit)) ∧
        (limit ≤ Binary64.one →
          2 ^ 53 * (total : Int) ≤ 2 ^ 53 * (page.totalPages * limit) + total) := by
  have sized := PageRequest.limit_natCast_pos paged size
  have makes : (∃ page, makePage request total items = .ok page) ↔ _ :=
    exists_makePage_iff paged size objects
  refine ⟨makes, ?_, ?_, ?_⟩
  · exact fun encodable => makes.mpr (lt_tooLarge_of_isEncodable encodable sized)
  · intro small short
    exact (Binary64.nearest_ceil_eq_iff sized).mp (Binary64.nearest_ceil_one small sized short)
  · intro page made
    obtain ⟨counted, last⟩ := totalPages_of_makePage paged size made
    have least : IsLeast {pages : Int | (total : Int) ≤ pages * limit} page.totalPages ↔
        Binary64.CeilIsTold total limit := by
      rw [← Binary64.nearest_ceil_eq_iff sized, counted]
      constructor
      · exact fun exact => Int.ofNat_inj.mp (exact.unique (isLeast_ceilDiv sized))
      · exact fun same => same ▸ isLeast_ceilDiv sized
    refine ⟨least, fun told => ?_, fun short => ?_⟩
    · rw [last]
      exact le_iff_of_isLeast (Int.natCast_nonneg limit) (least.mpr told)
    · rw [counted]
      exact_mod_cast Binary64.mul_le_ceil_nearest_mul sized short

end

/-- A request for the first page, 256 to a page. -/
def wideRequest : PageRequest := ⟨1, 256, none, none, [], none, false, false⟩

/-- More documents than `2 ^ 53`, with 200 on the last of their pages. -/
def wideTotal : Nat := 2 ^ 60 + 200

/-- The pages of so many documents are counted exactly where more than half a step of the quotient
is on the last of them. -/
theorem wide_pages_counted :
    wideRequest.isPaged = true ∧ wideRequest.limit = (256 : Nat) ∧ IsEncodable wideTotal ∧
      Binary64.CeilIsTold wideTotal 256 ∧ 256 ≤ Binary64.one ∧
      ∃ page, makePage wideRequest wideTotal [] = .ok page ∧
        IsLeast {pages : Int | (wideTotal : Int) ≤ pages * (256 : Nat)} page.totalPages ∧
        (page.next = none ↔ (wideTotal : Int) ≤ wideRequest.page * (256 : Nat)) := by
  have paged : wideRequest.isPaged = true := rfl
  have size : wideRequest.limit = (256 : Nat) := rfl
  have encodable : IsEncodable wideTotal := by decide
  have many := Binary64.two_pow_le_one
  have short : 256 ≤ Binary64.one := (by decide : 256 ≤ 2 ^ 52).trans many
  have held : Binary64.IsExact (wideTotal ⌈/⌉ 256 * Binary64.one) :=
    Binary64.isExact_mul_one (by decide)
  have long : 2 ^ 52 ≤ wideTotal * Binary64.one / 256 := by
    rw [wideTotal]
    omega
  have step := Binary64.mul_stepOf_le (by decide) long
  have told : Binary64.CeilIsTold wideTotal 256 := by
    refine ⟨held, fun _ _ => .inl ?_⟩
    rw [wideTotal] at step ⊢
    omega
  obtain ⟨-, made, -, exact⟩ :=
    @page_count_exact_iff wideRequest paged wideTotal 256 size [] (List.forall_mem_nil _)
  obtain ⟨page, same⟩ := made encodable
  obtain ⟨least, last, -⟩ := exact page same
  exact ⟨paged, size, encodable, told, short, page, same, least.mpr told, last told⟩

/-- A request for the last page but one of `2 ^ 53 + 1` documents, each on a page of its own. -/
def lastRequest : PageRequest := ⟨2 ^ 53, 1, none, none, [], none, false, false⟩

/-- The last of `2 ^ 53 + 1` documents is on no page: one page too few is counted, and none follows
the page before. -/
theorem last_document_unreachable :
    PageRequest.ofUrl "/items?limit=1&page=9007199254740992" .default = .ok lastRequest ∧
      ∃ page, makePage lastRequest (2 ^ 53 + 1) [] = .ok page ∧
        ¬IsLeast {pages : Int | 2 ^ 53 + 1 ≤ pages * lastRequest.limit} page.totalPages ∧
        page.next = none ∧ ¬2 ^ 53 + 1 ≤ lastRequest.page * lastRequest.limit := by
  have fits : 2 ^ 53 + 1 < Binary64.tooLarge * 1 :=
    lt_tooLarge_of_isEncodable (by decide) Nat.one_pos
  have single : lastRequest.limit = (1 : Nat) := rfl
  have counted : lastRequest.totalPages ((2 ^ 53 + 1 : Nat) : Int) = .ok (2 ^ 53) := by
    rw [PageRequest.totalPages_of_paged rfl single, pagesOf_eq_ok_iff Nat.one_pos,
      Binary64.ceil_nearest_not_exact]
    exact ⟨fits, rfl⟩
  obtain ⟨page, made⟩ := exists_makePage (List.forall_mem_nil _) counted
  obtain ⟨pages, same, rfl⟩ := makePage_eq_ok made
  cases counted.symm.trans same
  refine ⟨rfl, _, made, ?_, by decide, by decide⟩
  intro least
  have enough : (2 ^ 53 + 1 : Int) ≤ 2 ^ 53 * lastRequest.limit := least.1
  exact absurd enough (by decide)

end QueryPipeline
