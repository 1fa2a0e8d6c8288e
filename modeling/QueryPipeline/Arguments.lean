import QueryPipeline.Document.Value
import QueryPipeline.Failure
import QueryPipeline.Fetch.Union
import QueryPipeline.Filter.Basic
import QueryPipeline.Request.Url

/-!
# Reading arguments

Options, requests and filters may be given as loosely typed objects. A number may be written as a
text and a truth value as a word; whatever does not fit is reported with its place, and all problems
of one object are reported together.
-/

namespace QueryPipeline.Arguments

open Document Number Pipeline Text

/-- A result, or all problems that keep it from being made. -/
abbrev Checked (α : Type) : Type := Except (List Problem) α

/-- A function applied to an argument; the problems of both are reported. -/
def apply {α β : Type} (function : Checked (α → β)) (argument : Checked α) : Checked β :=
  match function, argument with
  | .ok f, .ok a => .ok (f a)
  | .error problems, .error others => .error (problems ++ others)
  | .error problems, .ok _ => .error problems
  | .ok _, .error problems => .error problems

/-- A result, failing with its problems. -/
def Checked.toExcept {α : Type} (checked : Checked α) : Except Failure α :=
  checked.mapError .arguments

/-- A reader of one value. -/
abbrev Reader (α : Type) : Type := Value → Checked α

/-- The problem with a value as a whole. -/
def refuse {α : Type} (kind : ProblemKind) : Checked α := .error [⟨[], kind⟩]

/-- The problems of a part, placed within the whole. -/
def within {α : Type} (name : String) (checked : Checked α) : Checked α :=
  checked.mapError fun problems =>
    problems.map fun problem => { problem with path := name :: problem.path }

/-- A member of an object, or a default where it is missing. -/
def member {α : Type} (members : Members) (name : String) (default : α) (read : Reader α) :
    Checked α :=
  match members.lookup name with
  | none => .ok default
  | some value => within name (read value)

/-- A member of an object that has to be there. -/
def required {α : Type} (members : Members) (name : String) (read : Reader α) : Checked α :=
  within name (match members.lookup name with | none => refuse .missing | some value => read value)

/-- The whole number that a text denotes; a fraction of zeros is no fraction. -/
def integerOfText (text : List Char) : Checked Int :=
  let trimmed := trim text
  let fraction := after '.' trimmed
  let whole := if fraction.all (· == '0') then before '.' trimmed else trimmed
  if whole.any fun c => 0x80 ≤ c.toNat then refuse .unreadableInteger
  else
    match readInteger whole with
    | .ok n => .ok n
    | .error (.tooLong _) => refuse .oversizedInteger
    | .error .malformed => refuse .unreadableInteger

/-- A whole number. -/
def integer : Reader Int
  | .int n => .ok n
  | .bool value => .ok (if value then 1 else 0)
  | .float x =>
    match x.floor, x.ceil with
    | .ok low, .ok high => if low = high then .ok low else refuse .fractionalInteger
    | _, _ => refuse .notFinite
  | .text text => integerOfText text.toList
  | _ => refuse .notAnInteger

/-- A text. -/
def string : Reader String
  | .text text => .ok text
  | _ => refuse .notAText

/-- The words for true. -/
def trueWords : List String := ["1", "true", "t", "yes", "y", "on"]

/-- The words for false. -/
def falseWords : List String := ["0", "false", "f", "no", "n", "off"]

/-- A truth value. -/
def bool : Reader Bool
  | .bool value => .ok value
  | .int n => if n = 0 then .ok false else if n = 1 then .ok true else refuse .unreadableBool
  | .text text =>
    let word := String.ofList (text.toList.map Char.toLower)
    if trueWords.contains word then .ok true
    else if falseWords.contains word then .ok false
    else refuse .unreadableBool
  | _ => refuse .notABool

/-- A value that may be missing. -/
def optional {α : Type} (read : Reader α) : Reader (Option α)
  | .null => .ok none
  | value => (read value).map some

/-- The items of a list from a position on. -/
def itemsFrom {α : Type} (read : Reader α) (position : Nat) : List Value → Checked (List α)
  | [] => .ok []
  | value :: rest =>
    apply ((within (decimalString position) (read value)).map List.cons)
      (itemsFrom read (position + 1) rest)

/-- A list. -/
def list {α : Type} (read : Reader α) : Reader (List α)
  | .array items => itemsFrom read 0 items
  | _ => refuse .notAList

/-- A stage of a caller. -/
def stage : Reader Stage
  | .object members => .ok (.custom members)
  | _ => refuse .notAnObject

/-- A list of stages, none where it is missing. -/
def stages : Reader (List Stage)
  | .null => .ok []
  | value => list stage value

/-- A token of an enumeration. -/
def token {α : Type} (kind : ProblemKind) (ofToken? : String → Option α) : Reader α
  | .text text =>
    match ofToken? text with
    | some value => .ok value
    | none => refuse kind
  | _ => refuse kind

/-- The options of a list. -/
def options (members : Members) : Checked Options :=
  let default := Options.default
  apply (apply (apply (apply (apply (apply (.ok Options.mk)
    (member members "limit" default.limit integer))
    (member members "sort_field" default.sortField string))
    (member members "sort_dir" default.sortDirection (token .notALiteral Direction.ofToken?)))
    (member members "tenant_field" default.tenantField string))
    (member members "tenant_value" none (optional string)))
    (member members "source_field" default.sourceField string)

/-- A request for a page. -/
def pageRequest (members : Members) : Checked PageRequest :=
  apply (apply (apply (apply (apply (apply (apply (apply (.ok PageRequest.mk)
    (member members "page" 1 integer))
    (member members "limit" defaultMaxLimit integer))
    (member members "sort_field" none (optional string)))
    (member members "sort_direction" none (optional string)))
    (member members "filters" [] (list string)))
    (member members "id" none (optional string)))
    (member members "export" false bool))
    (member members "count_only" false bool)

/-- The parameters that a client sets. -/
def urlOptions (members : Members) : Checked UrlOptions :=
  apply (apply (apply (apply (apply (apply (apply (.ok UrlOptions.mk)
    (member members "page" none (optional integer)))
    (member members "limit" none (optional integer)))
    (member members "sort" none (optional string)))
    (member members "filters" [] (list string)))
    (member members "id" none (optional string)))
    (member members "export" false bool))
    (member members "count_only" false bool)

/-- The name of the lower end of a range; it may be followed by an underscore. -/
def lowName (members : Members) : String :=
  if !members.has "from" && members.has "from_" then "from_" else "from"

/-- The two ends of a range. -/
def between (members : Members) : Checked Operand :=
  apply (apply (.ok Operand.between) (required members (lowName members) string))
    (required members "to" string)

/-- What a field is compared with, other than a range. -/
def operand : Reader (Option Operand)
  | .null => .ok none
  | .text text => .ok (some (.single text))
  | _ =>
    .error [⟨["str"], .notAText⟩, ⟨["BetweenOperatorValue"], .notAModel⟩]

/-- A filter around the given range, if there is one. -/
def filterAround (members : Members) (range : Option Operand) : Checked Filter :=
  apply (apply (apply (apply (apply (.ok Filter.mk)
    (member members "field" none (optional string)))
    (member members "type" none (optional (token .notAMember FilterType.ofToken?))))
    (member members "operator" none (optional (token .notAMember Operator.ofToken?))))
    (match range with
      | some range => .ok (some range)
      | none => member members "value" none operand))
    (member members "percent_of_result" none (optional string))

/-- A filter. The problems of a range are reported before all others. -/
def filter (members : Members) : Checked Filter :=
  match members.lookup "value" with
  | some (.object range) => (between range).bind fun range => filterAround members (some range)
  | _ => filterAround members none

/-- A source of a union. -/
def source (collection : String) (members : Members) : Checked Source :=
  apply (apply (.ok (Source.mk collection))
    (member members "initial_pipeline" [] stages))
    (member members "final_pipeline" [] stages)

end QueryPipeline.Arguments
