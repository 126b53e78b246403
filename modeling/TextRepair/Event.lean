import TextRepair.Session.Record

/-!
# Events

What an application and a session tell about their progress, in order.
-/

namespace TextRepair

/-- Why a record could not be written or read. -/
inductive RecordError where
  | io (text : String)
  | serialization (text : String)
  | digestMismatch (expected actual : String)
  deriving DecidableEq, Repr

namespace RecordError

def message : RecordError → String
  | io text => s!"io error: {text}"
  | serialization text => s!"serialization error: {text}"
  | digestMismatch expected actual => s!"digest mismatch: expected {expected}, got {actual}"

end RecordError

/-- How important an event is, most important first. -/
inductive Level where
  | error
  | warn
  | info
  | debug
  | trace
  deriving DecidableEq, Repr, Inhabited

namespace Level

/-- The name in logs. -/
def name : Level → String
  | error => "ERROR"
  | warn => "WARN"
  | info => "INFO"
  | debug => "DEBUG"
  | trace => "TRACE"

/-- The place in the order of importance, from 0. -/
def rank : Level → Nat
  | error => 0
  | warn => 1
  | info => 2
  | debug => 3
  | trace => 4

/-- The least important level shown if more is asked for `n` times. -/
def ofVerbosity : Nat → Level
  | 0 => warn
  | 1 => info
  | 2 => debug
  | _ => trace

end Level

/-- A step in the progress of an application or a session. -/
inductive Event where
  | hunkMatched (index : Nat) (candidate : Candidate Float)
  | hunkFailed (index : Nat) (best : Option Float)
  | applyFinished (total matched : Nat) (success : Bool)
  | cycleStarted (cycle : Nat) (target : String)
  | phaseEntered (cycle : Nat) (phase : Phase)
  | hypothesisRejected (cycle hypothesis : Nat) (reason : String)
  | sessionFinished (outcome : SessionOutcome) (cycles : Nat)
  | recordingFailed (error : RecordError)
  deriving Repr

namespace Event

/-- The name of an event in logs. -/
def name : Event → String
  | hunkMatched .. => "hunk.matched"
  | hunkFailed .. => "hunk.failed"
  | applyFinished .. => "apply.finished"
  | cycleStarted .. => "cycle.started"
  | phaseEntered .. => "loop.transition"
  | hypothesisRejected .. => "hypothesis.rejected"
  | sessionFinished .. => "session.finished"
  | recordingFailed .. => "recorder.error"

/-- The importance of an event. -/
def level : Event → Level
  | hunkMatched .. | phaseEntered .. => .debug
  | recordingFailed .. => .warn
  | _ => .info

end Event

/-- The event of a report on a hunk. -/
def HunkReport.event (r : HunkReport Float) : Event :=
  match r.candidate with
  | some c => .hunkMatched r.index c
  | none => .hunkFailed r.index (r.failure.bind NoMatch.confidence)

/-- The events of an application: one for each hunk, and one at the end. -/
def Outcome.events (o : Outcome Float) : List Event :=
  o.reports.map HunkReport.event ++
    [.applyFinished o.reports.length (o.reports.countP (·.matched)) o.success]

end TextRepair
