import QueryPipeline.Document.Value
import QueryPipeline.Failure

/-!
# Documents in responses

A response holds documents without their own types: identifiers are written as their digits and
points in time as their text, and members under reserved keys are left out. A number that is not
finite, or too long to be written, keeps the whole response from being written.
-/

namespace QueryPipeline.Document

open Time

/-- Whether a key is left out of responses. -/
def isReserved (key : String) : Bool :=
  match key.toList with
  | '_' :: 's' :: 'a' :: _ => true
  | _ => false

mutual

/-- A value as a response shows it. -/
def Value.toResponse : Value → Except Failure Value
  | .objectId id => .ok (.text (String.ofList id.text))
  | .date t => .ok (.text (String.ofList (t.text .ifNonzero)))
  | .regex _ => .error .regexInResponse
  | .array items => (itemsToResponse items).map .array
  | .object members => (membersToResponse members).map .object
  | value => .ok value

/-- A list of values as a response shows it. -/
def itemsToResponse : List Value → Except Failure (List Value)
  | [] => .ok []
  | value :: rest => do
    let shown ← value.toResponse
    let others ← itemsToResponse rest
    .ok (shown :: others)

/-- The members of an object as a response shows them. -/
def membersToResponse : List (String × Value) → Except Failure Members
  | [] => .ok []
  | (key, value) :: rest =>
    if isReserved key then membersToResponse rest
    else do
      let shown ← value.toResponse
      let others ← membersToResponse rest
      .ok ((key, shown) :: others)

end

mutual

/-- The first reason that a shown value cannot be written, if there is one. -/
def Value.responseFault? : Value → Option Failure
  | .int n => if Number.isWritable n then none else some .unwritableInteger
  | .float x => if x.isFinite then none else some .notFiniteInResponse
  | .array items => itemsFault? items
  | .object members => membersFault? members
  | _ => none

/-- The first reason that a list of shown values cannot be written, if there is one. -/
def itemsFault? : List Value → Option Failure
  | [] => none
  | value :: rest => value.responseFault?.or (itemsFault? rest)

/-- The first reason that shown members cannot be written, if there is one. -/
def membersFault? : List (String × Value) → Option Failure
  | [] => none
  | (_, value) :: rest => value.responseFault?.or (membersFault? rest)

end

/-- A value as the body of a response. -/
def Value.toBody (value : Value) : Except Failure Value := do
  let shown ← value.toResponse
  match shown.responseFault? with
  | some fault => .error fault
  | none => .ok shown

end QueryPipeline.Document
