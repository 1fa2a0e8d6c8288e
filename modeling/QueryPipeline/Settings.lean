import QueryPipeline.Failure

/-!
# Settings

The defaults of the library can be set through the environment.
-/

namespace QueryPipeline

open Number

/-- The defaults of the library. -/
structure Settings where
  /-- The largest page. -/
  maxLimit : Int
  /-- The field that pages are sorted by. -/
  sortField : String
  /-- The direction that pages are sorted in. -/
  sortDirection : String
  /-- The field that names the tenant of a document. -/
  tenantField : String
  /-- The field that names the collection of a document in a union. -/
  sourceField : String
  /-- Whether more is logged, as a text. -/
  debug : String
  /-- The file that log entries are written to. -/
  logFile : Option String
  /-- The address of the log collector. -/
  lokiUrl : String
  /-- The user of the log collector. -/
  lokiUser : String
  /-- The password for the log collector. -/
  lokiPassword : String
  deriving DecidableEq, Repr

/-- The variables of an environment. -/
abbrev Environment := List (String × String)

/-- The largest page where the environment does not say. -/
def defaultMaxLimit : Int := 250

/-- The largest page that an environment asks for. -/
def Environment.maxLimit (environment : Environment) : Except Failure Int :=
  match environment.lookup "URL_QUERY_MAX_LIMIT" with
  | none => .ok defaultMaxLimit
  | some text => (readInteger text.toList).mapError (.ofInteger text)

/-- The settings of an environment. -/
def Settings.ofEnvironment (environment : Environment) : Except Failure Settings :=
  let get (name default : String) : String := (environment.lookup name).getD default
  environment.maxLimit.map fun maxLimit =>
    { maxLimit
      sortField := get "URL_QUERY_SORT_FIELD" "updatedAt"
      sortDirection := get "URL_QUERY_SORT_DIR" "desc"
      tenantField := get "URL_QUERY_TENANT_FIELD" "shopDomain"
      sourceField := get "URL_QUERY_SOURCE_FIELD" "_sourceType"
      debug := get "DEBUG" "0"
      logFile := environment.lookup "LOG_FILE"
      lokiUrl := get "LOKI_URL" "http://loki:3100/loki/api/v1/push"
      lokiUser := get "LOKI_USER" "username"
      lokiPassword := get "LOKI_PASSWORD" "password" }

end QueryPipeline
