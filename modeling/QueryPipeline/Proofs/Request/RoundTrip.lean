import QueryPipeline.Filter.Tenant
import QueryPipeline.Proofs.Request.Rewriting

/-!
# Urls made for requests

A client makes a url for what it wants, and a server reads a request from it. Nothing is lost and
nothing is added on the way: whatever the texts hold, the request has the members that the client
set, and where it set none, those that the url it started from had already.
-/

namespace QueryPipeline

open Text Url

/-- The request of a url that is made by setting parameters, if it can be read, is that of the url
it is made from with the members that are set. -/
theorem ofUrl_buildUrl {base url : String} {set : UrlOptions}
    (built : buildUrl base set = .ok url) (readable : Url.IsReadable url) (options : Options) :
    ∃ request, PageRequest.ofUrl base options = .ok request ∧
      PageRequest.ofUrl url options = .ok (set.applyTo options request) := by
  obtain ⟨existing, start, final⟩ := readParameters_buildUrl built readable
  have written : set.canBeWritten = true := by
    rw [buildUrl] at built
    split at built
    · assumption
    · cases built
  refine ⟨_, by rw [PageRequest.ofUrl, start]; rfl, ?_⟩
  rw [PageRequest.ofUrl, final, Except.map, ofParameters_overriding written]

/-- The filters of a url without a tenant are those of its request, each read by itself. -/
theorem filtersOfUrl_eq {url : String} {options : Options} {request : PageRequest}
    (read : PageRequest.ofUrl url options = .ok request) {tenant : Option String}
    (free : nonEmpty tenant = none) (field : String) :
    filtersOfUrl url tenant field = .ok (request.filters.map Filter.read) := by
  obtain ⟨parameters, given, rfl⟩ := map_eq_ok read
  rw [filtersOfUrl, given, Except.map, confine, free]
  rfl

section

variable {field direction : String} (plain : '|' ∉ field.toList)
include plain

/-- A sort is cut at its first separator. -/
theorem sortParts_append : sortParts (field ++ "|" ++ direction) =
    (nonEmpty (some field), nonEmpty (some direction)) := by
  have text : (field ++ "|" ++ direction).toList = field.toList ++ '|' :: direction.toList := by
    simp
  rw [sortParts, text, before_append_cons plain, after_append_cons plain, String.ofList_toList,
    String.ofList_toList]

/-- A sort without a separator is a field alone. -/
theorem sortParts_of_not_mem : sortParts field = (nonEmpty (some field), none) := by
  rw [sortParts, before_of_not_mem plain, after_of_not_mem plain, String.ofList_toList]
  rfl

/-- A sort that a client sets with a direction gives both to the request. -/
theorem applyTo_sort {set : UrlOptions} (sort : set.sort = some (field ++ "|" ++ direction))
    (options : Options) (earlier : PageRequest) :
    (set.applyTo options earlier).sortField = nonEmpty (some field) ∧
      (set.applyTo options earlier).sortDirection = nonEmpty (some direction) := by
  have given : nonEmpty set.sort = some (field ++ "|" ++ direction) := by
    rw [sort, nonEmpty, if_neg]
    simp
  rw [UrlOptions.applyTo, given, Option.map_some, sortParts_append plain]
  exact ⟨rfl, rfl⟩

/-- A sort that a client sets without a direction gives the field alone to the request. -/
theorem applyTo_sort_of_not_mem {set : UrlOptions} (sort : set.sort = some field)
    (named : field ≠ "") (options : Options) (earlier : PageRequest) :
    (set.applyTo options earlier).sortField = some field ∧
      (set.applyTo options earlier).sortDirection = none := by
  have given : nonEmpty (some field) = some field := if_neg named
  rw [UrlOptions.applyTo, sort, given, Option.map_some, sortParts_of_not_mem plain, given]
  exact ⟨rfl, rfl⟩

end

/-- What a client sets is what a server reads. Of a url that is made by setting parameters, if it
can be read, each list reads the request of the url it is made from with the members that are set:
the page from one on, the size of the page within that of the list, the sort, all filters in order,
the identifier and the flags. The sort is the field before the first separator and the direction
after it, where these are not empty. Without a tenant, the filters of the url are those of the
request, each read by itself. -/
theorem built_url_requests_what_is_set {base url : String} {set : UrlOptions}
    (built : buildUrl base set = .ok url) (readable : Url.IsReadable url) (options : Options) :
    ∃ earlier request, PageRequest.ofUrl base options = .ok earlier ∧
      PageRequest.ofUrl url options = .ok request ∧ request = set.applyTo options earlier ∧
      (∀ field direction : String, '|' ∉ field.toList →
        set.sort = some (field ++ "|" ++ direction) →
          request.sortField = nonEmpty (some field) ∧
            request.sortDirection = nonEmpty (some direction)) ∧
      (∀ field : String, '|' ∉ field.toList → set.sort = some field → field ≠ "" →
        request.sortField = some field ∧ request.sortDirection = none) ∧
      ∀ tenant field, nonEmpty tenant = none →
        filtersOfUrl url tenant field = .ok (request.filters.map Filter.read) := by
  obtain ⟨earlier, start, final⟩ := ofUrl_buildUrl built readable options
  refine ⟨earlier, _, start, final, rfl, ?_, ?_, ?_⟩
  · exact fun field direction plain sort => applyTo_sort plain sort options earlier
  · exact fun field plain sort named => applyTo_sort_of_not_mem plain sort named options earlier
  · exact fun tenant field free => filtersOfUrl_eq final free field

/-- A url that asks for a page twice, with a filter, an identifier and a flag. -/
def askedTwice : String := "/items?page=7&page=8&id=3&filter=x%7C1&export=yes&limit=5"

/-- A client that wants the page before the first, of a hundred rows by price, with two filters that
hold the marks of a url. -/
def cheapestFirst : UrlOptions :=
  { UrlOptions.ofPage 0 with
    limit := some 100, sort := some "price|asc|name", filters := ["name|a&b=#1+%2B", "plain"],
    countOnly := true }

/-- A list of pages of twenty rows. -/
def twentyAtMost : Options := { Options.default with limit := 20 }

/-- The first page of twenty rows by price is asked for, with the identifier and the flag that the
url had before. -/
theorem cheapest_first_requested :
    ∃ url, buildUrl askedTwice cheapestFirst = .ok url ∧ Url.IsReadable url ∧
      PageRequest.ofUrl url twentyAtMost =
        .ok ⟨1, 20, some "price", some "asc|name", ["name|a&b=#1+%2B", "plain"], some "3", true,
          true⟩ := by
  have reread : ((buildUrl askedTwice cheapestFirst).toOption.bind fun url =>
      (readParameters url).toOption).isSome := by decide +kernel
  have start : (PageRequest.ofUrl askedTwice twentyAtMost).toOption =
      some ⟨8, 5, none, none, ["x|1"], some "3", true, false⟩ := by decide +kernel
  obtain ⟨url, built, readable⟩ := Url.exists_isReadable reread
  obtain ⟨earlier, request, before, after, rfl, -⟩ :=
    built_url_requests_what_is_set built readable twentyAtMost
  obtain rfl := Except.ok.inj ((eq_ok_of_toOption start).symm.trans before)
  exact ⟨url, built, readable, after⟩

end QueryPipeline
