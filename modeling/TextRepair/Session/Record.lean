import TextRepair.Ledger
import TextRepair.Report
import TextRepair.Session.Collaborators
import TextRepair.Session.Phase

/-!
# Records of a session

What a session leaves behind: one record per cycle, one per hypothesis tried in it, and the result.
-/

namespace TextRepair

/-- What was tried for one hypothesis. -/
structure Trial where
  hypothesisId : Nat
  explanation : String
  plan : Option String
  edit : Option Edit
  /-- The reports on the hunks of the edit. -/
  reports : List (HunkReport Float)
  /-- Whether the edit could be applied. -/
  applied : Bool
  verdict : Option Verdict
  signaturesAfter : List Signature
  rejection : Option String
  deriving Repr

/-- The record of a hypothesis for which nothing has been tried yet. -/
def Trial.ofHypothesis (h : Hypothesis) : Trial where
  hypothesisId := h.id
  explanation := h.explanation
  plan := none
  edit := none
  reports := []
  applied := false
  verdict := none
  signaturesAfter := []
  rejection := none

/-- How a cycle ended. -/
inductive CycleOutcome where
  | succeeded
  | exhausted
  | aborted (reason : String)
  deriving DecidableEq, Repr, Inhabited

/-- One pass from a diagnosis to its last check. -/
structure Cycle where
  /-- The number of the cycle, from 1 on. -/
  index : Nat
  startedAt : Timestamp
  target : Option Signature
  /-- The number of diagnostics at its start. -/
  baselineSize : Nat
  hypotheses : List Hypothesis
  /-- The index of the last hypothesis worked on. -/
  active : Option Nat
  trials : List Trial
  phases : List Phase
  outcome : CycleOutcome
  signatureBefore : Option Signature
  signatureAfter : Option Signature
  deriving Repr

namespace Cycle

/-- A cycle in which nothing has happened yet. -/
def start (index : Nat) (startedAt : Timestamp) : Cycle where
  index
  startedAt
  target := none
  baselineSize := 0
  hypotheses := []
  active := none
  trials := []
  phases := []
  outcome := .exhausted
  signatureBefore := none
  signatureAfter := none

/-- How often an edit was applied or tried to be. -/
def applySteps (c : Cycle) : Nat :=
  c.phases.countP (· = .applying)

/-- How often a candidate was checked. -/
def verifySteps (c : Cycle) : Nat :=
  c.phases.countP (· = .verifying)

end Cycle

/-- How a session ended. -/
inductive SessionOutcome where
  | succeeded
  /-- All cycles were used without success. -/
  | exhausted
  | cancelled
  deriving DecidableEq, Repr, Inhabited

namespace SessionOutcome

/-- All outcomes. -/
def all : List SessionOutcome :=
  [succeeded, exhausted, cancelled]

/-- The name in messages and stored data. -/
def name : SessionOutcome → String
  | succeeded => "succeeded"
  | exhausted => "exhausted"
  | cancelled => "cancelled"

end SessionOutcome

/-- The result of a session. -/
structure SessionResult where
  sessionId : String
  outcome : SessionOutcome
  cyclesUsed : Nat
  document : Document
  history : List Cycle
  startedAt : Timestamp
  finishedAt : Timestamp
  deriving Repr

/-- Whether the session mended the document. -/
def SessionResult.hasSucceeded (r : SessionResult) : Bool :=
  r.outcome = .succeeded

end TextRepair
