import QueryPipeline.Url.Scope

/-!
# Requests

A request comes as its url or in the parts that a server received. Its url is made only when it is
asked for, since the parts may have none.
-/

namespace QueryPipeline

/-- A request. -/
inductive Request
  /-- A request that is its url. -/
  | written (url : String)
  /-- A request in the parts that a server received. -/
  | received (scope : Url.Scope)

/-- The url of a request. -/
def Request.url : Request → Except Failure String
  | written url => .ok url
  | received scope => scope.url

end QueryPipeline
