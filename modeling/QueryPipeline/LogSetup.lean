/-!
# Where log entries go

Loggers put their entries on a queue, from which a listener writes them to a stream and, where a
path is configured, to a file. In debug mode the loggers also send their entries to a collector.
-/

namespace QueryPipeline

/-- What a logger hands its entries to. -/
inductive Handler
  /-- The queue. -/
  | queue
  /-- The collector. -/
  | collector
  deriving DecidableEq, Repr

/-- What the listener writes entries to. -/
inductive Sink
  /-- The stream of the process. -/
  | stream
  /-- A file that is started afresh at midnight. -/
  | dailyFile
  deriving DecidableEq, Repr

/-- How the log is set up. -/
structure LogSetup where
  /-- Whether debug mode is on. -/
  debug : Bool
  /-- The sinks of the listener. -/
  sinks : List Sink
  /-- The handlers of every logger. -/
  handlers : List Handler
  /-- How many entries the queue holds. -/
  queueSize : Nat
  deriving DecidableEq, Repr

namespace LogSetup

/-- The text that turns debug mode on. -/
def debugOn : String := "1"

/-- The setup for a debug setting and the path of a log file. -/
def make (debug : String) (logFile : Option String) : LogSetup :=
  { debug := debug == debugOn
    sinks := .stream :: if logFile.any (· ≠ "") then [.dailyFile] else []
    handlers := .queue :: if debug == debugOn then [.collector] else []
    queueSize := 200 }

/-- The handlers of a logger after those of the setup have been added; none is added twice. -/
def attach (setup : LogSetup) (present : List Handler) : List Handler :=
  present ++ setup.handlers.filter (!present.contains ·)

/-- The handlers of each of a list of loggers after it has been set up, in order. The loggers that
have been set up before are given with their handlers. -/
def attachAll (setup : LogSetup) (known : List (String × List Handler)) :
    List String → List (String × List Handler)
  | [] => []
  | name :: rest =>
    let handlers := setup.attach ((known.lookup name).getD [])
    (name, handlers) :: attachAll setup ((name, handlers) :: known) rest

end LogSetup

end QueryPipeline
