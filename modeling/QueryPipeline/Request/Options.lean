import QueryPipeline.Pipeline.Stage
import QueryPipeline.Settings

/-!
# Options of a list

The owner of a list decides how large a page may be, how pages are sorted unless the request says
otherwise, and to which tenant the list is confined.
-/

namespace QueryPipeline

open Pipeline

/-- The token of a direction. -/
def Pipeline.Direction.token : Direction → String
  | ascending => "asc"
  | descending => "desc"

/-- The direction with a token. -/
def Pipeline.Direction.ofToken? (token : String) : Option Direction :=
  [Direction.ascending, .descending].find? (·.token == token)

/-- The options of a list. -/
structure Options where
  /-- The largest page. -/
  limit : Int
  /-- The field that pages are sorted by unless the request names one. -/
  sortField : String
  /-- The direction that pages are sorted in unless the request names one. -/
  sortDirection : Direction
  /-- The field that names the tenant of a document. -/
  tenantField : String
  /-- The tenant whose documents are listed. -/
  tenant : Option String
  /-- The field that names the collection of a document in a union. -/
  sourceField : String
  deriving DecidableEq, Repr

/-- The options where nothing is set. -/
def Options.default : Options :=
  ⟨defaultMaxLimit, "updatedAt", .descending, "shopDomain", none, "_sourceType"⟩

/-- The default options agree with the settings of an empty environment. -/
theorem Settings.ofEnvironment_nil :
    (Settings.ofEnvironment []).toOption.map
        (fun settings => (settings.maxLimit, settings.sortField, settings.sortDirection,
          settings.tenantField, settings.sourceField)) =
      some (Options.default.limit, Options.default.sortField,
        Options.default.sortDirection.token, Options.default.tenantField,
        Options.default.sourceField) := rfl

end QueryPipeline
