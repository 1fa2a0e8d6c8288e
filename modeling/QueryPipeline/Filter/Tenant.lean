import QueryPipeline.Filter.Parser
import QueryPipeline.Request.Page
import QueryPipeline.Text.Pattern

/-!
# Filters of a request

The filters of a url are confined to a tenant: the tenant's own filter comes first, and the filters
of the url on the tenant field are left out, so no request can reach beyond the tenant.
-/

namespace QueryPipeline

open Text Url

/-- The filter that holds for the documents of a tenant. -/
def tenantFilter (field tenant : String) : Filter :=
  ⟨some field, some .string, some .equal, some (.single (String.ofList (literal tenant.toList))),
    none⟩

/-- Filters confined to a tenant, if there is one. -/
def confine (tenant : Option String) (field : String) (filters : List Filter) : List Filter :=
  match nonEmpty tenant with
  | some tenant =>
    if field = "" then filters
    else tenantFilter field tenant :: filters.filter (·.field ≠ some field)
  | none => filters

/-- The filters of a url, confined to a tenant if there is one. -/
def filtersOfUrl (url : String) (tenant : Option String) (field : String) :
    Except Failure (List Filter) :=
  (readParameters url).map fun parameters =>
    confine tenant field ((parameters.all filterKey).map Filter.read)

end QueryPipeline
