import QueryPipeline.Engine.Session
import QueryPipeline.Proofs.Failure

/-!
# What a session leaves in its trace

A session is put together from steps that do nothing but give a result, add one entry to the log or
send one call. Here each step is said to do so as an equation, so that what a longer session does is
read off without opening the steps again. A count that fails has still been sent.
-/

namespace QueryPipeline

open Document Number Pipeline

/-- The call that counts what a pipeline yields. -/
def Call.counting (collection : String) (pipeline : List Stage) : Call :=
  ⟨collection, pipeline ++ [.count Session.totalField], some 1⟩

/-- The call for everything that a pipeline yields. -/
def Call.fetching (collection : String) (pipeline : List Stage) : Call :=
  ⟨collection, pipeline, none⟩

/-- The call for the first document that a pipeline yields. -/
def Call.first (collection : String) (pipeline : List Stage) : Call :=
  ⟨collection, pipeline ++ [.limit 1], some 1⟩

namespace Trace

/-- The trace after one more call. -/
def sent (trace : Trace) (call : Call) : Trace := { trace with calls := trace.calls ++ [call] }

/-- The trace after one more entry of the log. -/
def noted (trace : Trace) (entry : LogEntry) : Trace := { trace with log := trace.log ++ [entry] }

@[simp] theorem calls_empty : empty.calls = [] := rfl

@[simp] theorem calls_sent (trace : Trace) (call : Call) :
    (trace.sent call).calls = trace.calls ++ [call] := rfl

@[simp] theorem calls_noted (trace : Trace) (entry : LogEntry) :
    (trace.noted entry).calls = trace.calls := rfl

end Trace

/-- The rows that an engine answers to a call after earlier calls. -/
def Engine.rows (engine : Engine) (earlier : List Call) (call : Call) :
    Except Failure (List Value) :=
  (engine earlier call).toExcept call.length

/-- The count that an engine answers to a call after earlier calls. -/
def Engine.total (engine : Engine) (earlier : List Call) (call : Call) : Except Failure Int := do
  let rows ← engine.rows earlier call
  let total ← Session.totalOf rows
  if isWritable total then .ok total else .error .unwritableInteger

/-- The rows of a call without a bound are all that the engine answers. -/
theorem Engine.rows_fetching_eq_ok {engine : Engine} {earlier : List Call} {collection : String}
    {pipeline : List Stage} {rows : List Value}
    (found : engine.rows earlier (.fetching collection pipeline) = .ok rows) :
    engine earlier (.fetching collection pipeline) = .rows rows := by
  rw [Engine.rows] at found
  cases answer : engine earlier (.fetching collection pipeline) with
  | failure text =>
    rw [answer] at found
    cases found
  | rows answered =>
    rw [answer] at found
    cases found
    rfl

/-- Only the first row of a count matters. -/
theorem Session.totalOf_take_one (rows : List Value) :
    totalOf (rows.take 1) = totalOf rows := by
  rcases rows with - | ⟨row, rest⟩
  · rfl
  · cases row <;> rfl

/-- A count that is told is the total of the rows that the engine answers. -/
theorem Engine.total_counting_eq_ok {engine : Engine} {earlier : List Call} {collection : String}
    {pipeline : List Stage} {total : Int}
    (counted : engine.total earlier (.counting collection pipeline) = .ok total) :
    ∃ rows, engine earlier (.counting collection pipeline) = .rows rows ∧
      Session.totalOf rows = .ok total := by
  obtain ⟨first, found, rest⟩ := bind_eq_ok counted
  obtain ⟨n, read, written⟩ := bind_eq_ok rest
  have same : n = total := by
    split at written
    · exact Except.ok.inj written
    · cases written
  rw [Engine.rows] at found
  cases answer : engine earlier (.counting collection pipeline) with
  | failure text =>
    rw [answer] at found
    cases found
  | rows rows =>
    rw [answer] at found
    cases found
    exact ⟨rows, rfl, by rw [← Session.totalOf_take_one, ← same]; exact read⟩

/-- A count that is told has few enough digits to be written. -/
theorem Engine.isWritable_total {engine : Engine} {earlier : List Call} {call : Call} {total : Int}
    (counted : engine.total earlier call = .ok total) : isWritable total = true := by
  obtain ⟨rows, -, rest⟩ := bind_eq_ok counted
  obtain ⟨n, -, written⟩ := bind_eq_ok rest
  split at written
  · next writable => exact Except.ok.inj written ▸ writable
  · cases written

namespace Session

variable {α β : Type} {engine : Engine} {trace : Trace}

/-- A given result leaves the trace as it is. -/
@[simp] theorem ofExcept_apply (result : Except Failure α) :
    ofExcept result engine trace = (result, trace) := rfl

/-- What follows a given result is all that happens. -/
theorem ofExcept_ok_bind (a : α) (next : α → Session β) :
    (ofExcept (.ok a) >>= next) = next a := rfl

/-- A given result that is only worked on leaves the trace as it is. -/
theorem ofExcept_bind_pure (result : Except Failure α) (f : α → β) :
    (ofExcept result >>= fun a => pure (f a)) engine trace = (result.map f, trace) := by
  cases result <;> rfl

/-- What follows a call goes on from the rows that are answered, or not at all. -/
theorem send_bind (collection : String) (pipeline : List Stage) (length : Option Nat)
    (next : List Value → Session β) :
    (send collection pipeline length >>= next) engine trace =
      (ofExcept (engine.rows trace.calls ⟨collection, pipeline, length⟩) >>= next) engine
        (trace.sent ⟨collection, pipeline, length⟩) := rfl

/-- A count sends one call and gives the count that is answered to it. -/
theorem count_apply (collection : String) (pipeline : List Stage) :
    count collection pipeline engine trace =
      (engine.total trace.calls (.counting collection pipeline),
        trace.sent (.counting collection pipeline)) := by
  rw [count, send_bind, Engine.total]
  change (ofExcept (engine.rows trace.calls (.counting collection pipeline)) >>= _) engine _ = _
  cases engine.rows trace.calls (.counting collection pipeline) with
  | error failure => rfl
  | ok rows =>
    cases read : totalOf rows with
    | error failure => simp [read, bind, Except.bind, Call.counting]
    | ok total =>
      by_cases writable : isWritable total <;>
        simp [read, writable, bind, Except.bind, Call.counting, fail]

/-- A fetch of everything sends one call if the pipeline can be written, and none otherwise. -/
theorem fetchAll_apply (collection : String) (pipeline : List Stage) :
    fetchAll collection pipeline engine trace =
      if canBeWritten pipeline then
        (engine.rows trace.calls (.fetching collection pipeline),
          trace.sent (.fetching collection pipeline))
      else (.error .unwritableInteger, trace) := by
  by_cases writable : canBeWritten pipeline
  · rw [fetchAll, if_pos writable, if_pos writable]
    rfl
  · rw [fetchAll, if_neg writable, if_neg writable]
    rfl

/-- A fetch of the first document sends one call and gives the first row that is answered. -/
theorem fetchFirst_apply (collection : String) (pipeline : List Stage) :
    fetchFirst collection pipeline engine trace =
      ((engine.rows trace.calls (.first collection pipeline)).map List.head?,
        trace.sent (.first collection pipeline)) := by
  rw [fetchFirst, send_bind]
  change (ofExcept (engine.rows trace.calls (.first collection pipeline)) >>= _) engine _ = _
  cases engine.rows trace.calls (.first collection pipeline) <;> rfl

end Session

end QueryPipeline
