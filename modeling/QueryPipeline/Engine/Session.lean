import QueryPipeline.Engine.Basic
import QueryPipeline.Failure

/-!
# Sessions with an engine

A session sends calls to an engine and logs what happens. The calls and the log are kept up to the
point where a session fails.
-/

namespace QueryPipeline

open Document Number Pipeline

/-- The rows of an answer, at most as many as were asked for. -/
def Response.toExcept (length : Option Nat) : Response → Except Failure (List Value)
  | .rows found => .ok (match length with | some n => found.take n | none => found)
  | .failure text => .error (.engine text)

/-- How grave a log entry is. -/
inductive Level
  /-- Something happened. -/
  | info
  /-- Something was passed over. -/
  | warning
  deriving DecidableEq, Repr

/-- An entry of the log. -/
structure LogEntry where
  /-- How grave the entry is. -/
  level : Level
  /-- The name of the logger. -/
  logger : String
  /-- What happened. -/
  text : String
  deriving DecidableEq, Repr

/-- What a session has done so far. -/
structure Trace where
  /-- The calls, the earliest first. -/
  calls : List Call
  /-- The log entries, the earliest first. -/
  log : List LogEntry

/-- The trace of a session that has not started. -/
def Trace.empty : Trace := ⟨[], []⟩

/-- A computation that uses an engine, extends the trace and may fail. -/
def Session (α : Type) : Type := Engine → Trace → Except Failure α × Trace

namespace Session

instance : Monad Session where
  pure a := fun _ trace => (.ok a, trace)
  bind session next := fun engine trace =>
    match session engine trace with
    | (.ok a, trace) => next a engine trace
    | (.error failure, trace) => (.error failure, trace)

/-- A session that gives a result leaves the trace as it is. -/
@[simp] theorem pure_apply {α : Type} (a : α) (engine : Engine) (trace : Trace) :
    (pure a : Session α) engine trace = (.ok a, trace) := rfl

/-- What follows a session that succeeds starts from the trace that the session leaves. -/
theorem bind_ok {α β : Type} {session : Session α} {next : α → Session β} {engine : Engine}
    {trace after : Trace} {a : α} (h : session engine trace = (.ok a, after)) :
    (session >>= next) engine trace = next a engine after := by
  show (match session engine trace with
    | (.ok a, trace) => next a engine trace
    | (.error failure, trace) => (.error failure, trace)) = _
  rw [h]

/-- Nothing follows a session that fails. -/
theorem bind_error {α β : Type} {session : Session α} {next : α → Session β} {engine : Engine}
    {trace after : Trace} {failure : Failure}
    (h : session engine trace = (.error failure, after)) :
    (session >>= next) engine trace = (.error failure, after) := by
  show (match session engine trace with
    | (.ok a, trace) => next a engine trace
    | (.error failure, trace) => (.error failure, trace)) = _
  rw [h]

/-- Sessions follow the laws of monads. -/
instance : LawfulMonad Session := by
  refine LawfulMonad.mk' (m := Session) ?_ ?_ ?_
  · intro α session
    funext engine trace
    show (session >>= fun a => pure a) engine trace = _
    rcases h : session engine trace with ⟨answer | a, after⟩
    · exact bind_error h
    · exact bind_ok h
  · intro α β a next
    rfl
  · intro α β γ session next last
    funext engine trace
    rcases h : session engine trace with ⟨failure | a, after⟩
    · rw [bind_error h, bind_error (bind_error h)]
    · rw [bind_ok h]
      rcases g : next a engine after with ⟨failure | b, final⟩
      · rw [bind_error g, bind_error ((bind_ok h).trans g)]
      · rw [bind_ok g, bind_ok ((bind_ok h).trans g)]

/-- The answer and the trace of a session with an engine. -/
def run {α : Type} (session : Session α) (engine : Engine) : Except Failure α × Trace :=
  session engine Trace.empty

/-- The session that does nothing and gives a result. -/
def ofExcept {α : Type} (result : Except Failure α) : Session α := fun _ trace => (result, trace)

/-- The session that fails. -/
def fail {α : Type} (failure : Failure) : Session α := ofExcept (.error failure)

/-- Add an entry to the log. -/
def log (level : Level) (logger text : String) : Session Unit := fun _ trace =>
  (.ok (), { trace with log := trace.log ++ [⟨level, logger, text⟩] })

/-- Send a pipeline to a collection. -/
def send (collection : String) (pipeline : List Stage) (length : Option Nat) :
    Session (List Value) := fun engine trace =>
  let call : Call := ⟨collection, pipeline, length⟩
  ((engine trace.calls call).toExcept length, { trace with calls := trace.calls ++ [call] })

/-- The field of a count row that holds the count. -/
def totalField : String := "total"

/-- The count in the rows of a count call; no row means that there is nothing. -/
def totalOf : List Value → Except Failure Int
  | [] => .ok 0
  | .object members :: _ =>
    match members.lookup totalField with
    | some (.int total) => .ok total
    | some _ => .error .totalNotAnInteger
    | none => .error .totalMissing
  | _ :: _ => .error .totalNotAnInteger

/-- The number of documents that a pipeline yields. A number that cannot be written fails. -/
def count (collection : String) (pipeline : List Stage) : Session Int := do
  let rows ← send collection (pipeline ++ [.count totalField]) (some 1)
  let total ← ofExcept (totalOf rows)
  if isWritable total then pure total else fail .unwritableInteger

/-- All documents that a pipeline yields. A pipeline that cannot be written is not sent. -/
def fetchAll (collection : String) (pipeline : List Stage) : Session (List Value) :=
  if canBeWritten pipeline then send collection pipeline none else fail .unwritableInteger

/-- The first document that a pipeline yields. -/
def fetchFirst (collection : String) (pipeline : List Stage) : Session (Option Value) := do
  let rows ← send collection (pipeline ++ [.limit 1]) (some 1)
  pure rows.head?

end Session

end QueryPipeline
