import QueryPipeline.Engine.Session
import QueryPipeline.Filter.Compile

/-!
# Shares of a result

A filter can ask for a percentage of the documents that have passed so far, counted from the front
if it is positive and from the back if it is negative. The documents are counted, and the share is
cut out by position. An empty share is a stage that nothing passes, since no engine takes a limit of
zero.
-/

namespace QueryPipeline

open Number Pipeline

/-- The failure of rounding to a whole number. -/
def Failure.ofWhole : Binary64.WholeFault → Failure
  | .infinite => .infinityToInteger
  | .nan => .nanToInteger

/-- A whole number as a floating point number, unless it is too large. -/
def toBinary64 (n : Int) : Except Failure Binary64 :=
  let x := Binary64.ofInt n
  if x.isFinite then .ok x else .error .integerTooLarge

/-- The number of documents in a share: rounded up from the front, down from the back. -/
def shareSize (total : Int) (percent : Binary64) : Except Failure Int := do
  let whole ← toBinary64 total
  let size :=
    if percent.isNonNegative then ((whole.mul percent).divNat 100).ceil
    else ((whole.mul percent.neg).divNat 100).floor
  size.mapError .ofWhole

/-- The stages that cut out a number of documents. -/
def windowStages (total size : Int) (fromBack : Bool) : List Stage :=
  if size ≤ 0 then [.select .never]
  else if fromBack then [.skip (total - size), .limit size]
  else [.limit size]

/-- The stages that cut out a share of a number of documents. -/
def shareStages (total : Int) (percent : Binary64) : Except Failure (List Stage) :=
  if total = 0 then .ok []
  else (shareSize total percent).map fun size => windowStages total size percent.isNegative

/-- The percentage that a text denotes, if it denotes a finite number. -/
def readShare? (text : String) : Option Binary64 :=
  (readDecimal? text.toList).filter Binary64.isFinite

/-- The name of the logger of filters. -/
def filterLogger : String := "UrlQuery"

/-- The log text for a share that is no number. -/
def ignoredShareText (filter : Filter) (share : String) : String :=
  "percentOfResult '" ++ share ++ "' on " ++ filter.field.getD "None" ++ " ignored"

/-- The stages for the share of a filter, after the stages that have been made so far. -/
def shareOf (collection : String) (pipeline : List Stage) (filter : Filter) :
    Session (List Stage) :=
  match filter.share with
  | none => pure []
  | some share =>
    if share = "" then pure []
    else
      match readShare? share with
      | none => do
        Session.log .warning filterLogger (ignoredShareText filter share)
        pure []
      | some percent => do
        let total ← Session.count collection pipeline
        Session.ofExcept (shareStages total percent)

/-- The stages so far, followed by those of a list of filters and of their shares. -/
def compileSharesAfter (collection : String) (pipeline : List Stage) :
    List Filter → Session (List Stage)
  | [] => pure pipeline
  | filter :: rest => do
    match ← Session.ofExcept filter.condition with
    | none => compileSharesAfter collection pipeline rest
    | some condition =>
      let selected := pipeline ++ [.select condition]
      let share ← shareOf collection selected filter
      compileSharesAfter collection (selected ++ share) rest

/-- The stages of a list of filters and of their shares, counted in a collection. -/
def compileShares (collection : String) (filters : List Filter) : Session (List Stage) :=
  compileSharesAfter collection [] filters

end QueryPipeline
