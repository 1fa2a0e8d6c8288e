import QueryPipeline.Proofs.Request.Overriding
import QueryPipeline.Proofs.Url.Parameters

/-!
# Urls made for pages

A client that sets the number of a page rewrites the whole url: its parameters are read and written
again. What is read of the new url differs from what was read of the old one in that number alone,
and setting the number again leaves no trace of the first one, so all pages of a list have the urls
that are made from the first url directly.
-/

namespace QueryPipeline

open Number Text Url

/-- The number of a page can be set where it can be written. -/
theorem canBeWritten_ofPage {page : Int} (writable : isWritable page = true) :
    (UrlOptions.ofPage page).canBeWritten = true := by
  rw [UrlOptions.canBeWritten]
  simp [UrlOptions.ofPage, UrlOptions.none, writable]

/-- Setting the number of a page changes that number and nothing else of a request. -/
theorem ofParameters_overriding_page {parameters : Parameters} {options : Options} {page : Int}
    (writable : isWritable page = true) (positive : 1 ≤ page) :
    PageRequest.ofParameters (overriding parameters [(pageKey, decimalString page)]) options =
      { PageRequest.ofParameters parameters options with page } := by
  have same : (UrlOptions.ofPage page).parameters = [(pageKey, decimalString page)] := rfl
  rw [← same, ofParameters_overriding (canBeWritten_ofPage writable)]
  change { PageRequest.ofParameters parameters options with page := max page 1 } = _
  rw [Int.max_eq_left positive]

namespace Url

/-- The parts of the url of a page of the list at a url. -/
def withPage (parts : Url) (page : Int) : Url :=
  { parts with
    query := (overriding (Parameters.read parts.query) (UrlOptions.ofPage page).parameters).write }

/-- Setting the number of the page of a url for a page gives the url for the other page. -/
theorem settled_withPage (parts : Url) (page next : Int) :
    (parts.withPage page).settled.withPage next = (parts.withPage next).settled := by
  have query : overriding (Parameters.read (parts.withPage page).query)
      (UrlOptions.ofPage next).parameters =
        overriding (Parameters.read parts.query) (UrlOptions.ofPage next).parameters := by
    have keys : (UrlOptions.ofPage page).parameters.map (·.1) =
        (UrlOptions.ofPage next).parameters.map (·.1) := rfl
    rw [withPage, Parameters.read_write, overriding_overriding keys]
  change { (parts.withPage page).settled with
    query := (overriding (Parameters.read (parts.withPage page).query)
      (UrlOptions.ofPage next).parameters).write } = _
  rw [query]
  rfl

/-- A text that is read as a url is split into its parts, and nothing is wrong with them. -/
theorem read_eq_ok {text : List Char} {parts : Url} (given : read text = .ok parts) :
    split text = parts ∧ parts.fault? = none := by
  rw [read] at given
  split at given
  · cases given
  · next sound =>
    cases given
    exact ⟨rfl, sound⟩

/-- The parts of a text that is read as a url are sound, unless a path would be taken for an
authority. -/
theorem isSound_of_read {text : List Char} {parts : Url} (given : read text = .ok parts)
    (apart : parts.authority ≠ [] ∨ ¬['/', '/'] <+: parts.path) : parts.IsSound := by
  obtain ⟨rfl, -⟩ := read_eq_ok given
  exact isSound_split apart

namespace IsSound

variable {parts : Url} (sound : parts.IsSound)
include sound

/-- The parts of the url of a page are sound. -/
theorem withPage (page : Int) : (parts.withPage page).IsSound :=
  sound.withQuery (Parameters.not_mem_write rfl (by decide) (by decide) _)
    fun _ => Parameters.isKept_of_mem_write

/-- Sound parts with nothing wrong are read when they are written. -/
theorem read_write (fine : parts.fault? = none) : read parts.write = .ok parts.settled := by
  have same : parts.settled.fault? = none := fine
  rw [read, sound.split_write, same]

end IsSound

end Url

/-- The url of a page of the list at a url. -/
def pageUrl (parts : Url) (page : Int) : String := String.ofList (parts.withPage page).write

section

variable {url : String} {parts : Url} (given : Url.read url.toList = .ok parts)
include given

/-- The url of a page is made by setting the number of the page. -/
theorem buildUrl_ofPage {page : Int} (writable : isWritable page = true) :
    buildUrl url (.ofPage page) = .ok (pageUrl parts page) := by
  rw [buildUrl, if_pos (canBeWritten_ofPage writable), given]
  rfl

variable (apart : parts.authority ≠ [] ∨ ¬['/', '/'] <+: parts.path)
include apart

/-- The url of a page is read as the parts it was written from. -/
theorem read_pageUrl (page : Int) :
    Url.read (pageUrl parts page).toList = .ok (parts.withPage page).settled := by
  have sound := (isSound_of_read given apart).withPage page
  rw [pageUrl, String.toList_ofList]
  exact sound.read_write (read_eq_ok given).2

/-- The parameters of the url of a page are those of the first url, the number of the page apart. -/
theorem readParameters_pageUrl (page : Int) :
    readParameters (pageUrl parts page) =
      .ok (overriding (Parameters.read parts.query) [(pageKey, decimalString page)]) := by
  rw [readParameters, read_pageUrl given apart, Except.map]
  exact congrArg Except.ok (Parameters.read_write _)

/-- The url of a page that is made from the url of another page is the same as if it were made from
the first url. -/
theorem buildUrl_pageUrl (page : Int) {next : Int} (writable : isWritable next = true) :
    buildUrl (pageUrl parts page) (.ofPage next) = .ok (pageUrl parts next) := by
  rw [buildUrl_ofPage (read_pageUrl given apart page) writable, pageUrl, settled_withPage,
    write_settled, pageUrl]

end

end QueryPipeline
