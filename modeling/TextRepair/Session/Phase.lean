/-!
# Phases of a repair session

The places that a session passes through, and which of them may follow which.
-/

namespace TextRepair

/-- A place in a repair session. -/
inductive Phase where
  | diagnosing
  | hypothesisSelected
  | planning
  | generating
  | applying
  | verifying
  | cycleSucceeded
  | hypothesisRejected
  | hypothesisExhausted
  | cycleAborted
  | sessionSucceeded
  | sessionFailed
  | sessionCancelled
  deriving DecidableEq, Repr, Inhabited

namespace Phase

/-- All phases. -/
def all : List Phase :=
  [diagnosing, hypothesisSelected, planning, generating, applying, verifying, cycleSucceeded,
    hypothesisRejected, hypothesisExhausted, cycleAborted, sessionSucceeded, sessionFailed,
    sessionCancelled]

/-- The name in events and stored data. -/
def name : Phase → String
  | diagnosing => "diagnosing"
  | hypothesisSelected => "hypothesis_selected"
  | planning => "planning"
  | generating => "generating"
  | applying => "applying"
  | verifying => "verifying"
  | cycleSucceeded => "cycle_succeeded"
  | hypothesisRejected => "hypothesis_rejected"
  | hypothesisExhausted => "hypothesis_exhausted"
  | cycleAborted => "cycle_aborted"
  | sessionSucceeded => "session_succeeded"
  | sessionFailed => "session_failed"
  | sessionCancelled => "session_cancelled"

/-- Whether the phase ends the session. -/
def isTerminal : Phase → Bool
  | sessionSucceeded | sessionFailed | sessionCancelled => true
  | _ => false

/-- Whether the phase ends a cycle. -/
def endsCycle : Phase → Bool
  | cycleSucceeded | hypothesisExhausted | cycleAborted => true
  | _ => false

/-- The phases that may come next. -/
def successors : Phase → List Phase
  | diagnosing => [hypothesisSelected, cycleSucceeded, cycleAborted]
  | hypothesisSelected => [planning, cycleAborted]
  | planning => [generating, hypothesisRejected, cycleAborted]
  | generating => [applying, hypothesisRejected, cycleAborted]
  | applying => [verifying, hypothesisRejected, cycleAborted]
  | verifying => [cycleSucceeded, hypothesisRejected, cycleAborted]
  | hypothesisRejected => [hypothesisSelected, hypothesisExhausted, cycleAborted]
  | cycleSucceeded => [sessionSucceeded]
  | hypothesisExhausted | cycleAborted => [diagnosing, sessionFailed, sessionCancelled]
  | sessionSucceeded | sessionFailed | sessionCancelled => []

/-- Whether `next` may follow `p`. -/
def allows (p next : Phase) : Bool :=
  next ∈ p.successors

/-- Whether each phase of a path may follow the one before it. -/
def isPath : List Phase → Bool
  | p :: q :: rest => p.allows q && isPath (q :: rest)
  | _ => true

end Phase

end TextRepair
