import QueryPipeline.Engine.Session
import QueryPipeline.Request.Basic
import QueryPipeline.Request.Page

/-!
# Fetching one document

A document is fetched by an identifier, in whichever form it is stored, or by the value of a field.
-/

namespace QueryPipeline

open Document Pipeline Url

/-- The last identifier in the url of a request; an empty one is none. -/
def requestedId (request : Request) : Except Failure (Option GivenId) := do
  let parameters ← readParameters (← request.url)
  return (nonEmpty (parameters.last? idKey)).map GivenId.text

/-- The identifier that a caller gives, or else that of the request; an empty one is none. -/
def chosenId (given : Option GivenId) (request : Request) : Except Failure (Option GivenId) :=
  match given with
  | some (.int n) => .ok (some (.int n))
  | some (.text text) => if text = "" then requestedId request else .ok (some (.text text))
  | none => requestedId request

/-- Fetch the document of a collection that has an identifier. -/
def fetchIdentified (collection : String) (initial final : List Stage) (given : GivenId) :
    Session (Option Value) := do
  let identifier ← Session.ofExcept (Identifier.ofGiven given)
  Session.fetchFirst collection (initial ++ .select (.identified identifier) :: final)

/-- Fetch the document of a collection that a caller or a request asks for. -/
def fetchItem (collection : String) (request : Request) (initial final : List Stage)
    (given : Option GivenId) : Session (Option Value) := do
  match ← Session.ofExcept (chosenId given request) with
  | none => pure none
  | some given => fetchIdentified collection initial final given

/-- Fetch a document of a collection by the value of a field. -/
def fetchItemByField (collection : String) (field : String) (value : Value)
    (pipeline : List Stage) : Session (Option Value) :=
  Session.fetchFirst collection (pipeline ++ [.select (.literal field value)])

end QueryPipeline
