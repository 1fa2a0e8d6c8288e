import QueryPipeline.Fetch.List
import QueryPipeline.Request.Url

/-!
# Walking through the pages of a list

A client walks through a list by setting the number of the page in the url to that of the page that
follows, or of the page that comes before, until there is none.
-/

namespace QueryPipeline

open Pipeline

/-- One step of a walk. -/
structure Step where
  /-- The url of the page. -/
  url : String
  /-- The page, or why there is none. -/
  page : Except Failure Page
  /-- What the step did. -/
  trace : Trace

/-- The number of the page that a walk goes on with. -/
def Page.beside (page : Page) (back : Bool) : Option Int :=
  if back then page.previous else page.next

/-- The steps of a walk through a collection, at most as many as given; each starts afresh with the
engine. -/
def walk (engine : Engine) (collection : String) (options : Options) (back : Bool) :
    Nat → String → List Step
  | 0, _ => []
  | steps + 1, url =>
    let (page, trace) := (fetchList collection (.written url) options [] []).run engine
    let url? :=
      match page with
      | .ok page =>
        (page.beside back).bind fun number => (buildUrl url (.ofPage number)).toOption
      | .error _ => none
    ⟨url, page, trace⟩ ::
      match url? with
      | some next => walk engine collection options back steps next
      | none => []

end QueryPipeline
