import TextRepair.Apply
import TextRepair.Event
import TextRepair.Session.Config

/-!
# Repair sessions

A session goes through cycles. Each cycle diagnoses the document, asks for explanations and tries them
one at a time: a plan, an edit, its application, a check of the candidate. The first candidate
without the target and without a new blocking diagnostic ends the session. A rejected candidate is
dropped, so the next one starts from the same document; if all are rejected, the reasons go into the
next diagnosis. Before each call the session looks whether it is asked to stop.

* `tryHypothesis`, `tryAll` : one hypothesis, and the hypotheses of a cycle in order.
* `runCycle` : one cycle.
* `runSession` : a session with settings that are checked first.
-/

namespace TextRepair

/-- Those who keep the records of a session. -/
structure Recorder (W : Type) where
  recordCycle : (sessionId : String) → Cycle → StateM W (Except RecordError Unit)
  recordResult : SessionResult → StateM W (Except RecordError Unit)

/-- A recorder that keeps nothing. -/
def Recorder.none {W : Type} : Recorder W where
  recordCycle _ _ := pure (.ok ())
  recordResult _ := pure (.ok ())

/-- A cycle under way. -/
structure CycleRun where
  cycle : Cycle
  ledger : Ledger
  /-- The document of a cycle that has succeeded. -/
  mended : Option Document
  /-- The reasons to carry into the next diagnosis. -/
  rejections : List String
  isCancelled : Bool
  /-- The events so far, first one first. -/
  events : List Event

namespace CycleRun

/-- A cycle in which nothing has happened yet. -/
def start (index : Nat) (startedAt : Timestamp) : CycleRun where
  cycle := .start index startedAt
  ledger := .empty
  mended := none
  rejections := []
  isCancelled := false
  events := []

/-- Adds events. -/
def tell (run : CycleRun) (events : List Event) : CycleRun :=
  { run with events := run.events ++ events }

/-- Goes to a phase. -/
def enter (run : CycleRun) (phase : Phase) : CycleRun :=
  { run.tell [.phaseEntered run.cycle.index phase] with
    cycle := { run.cycle with phases := run.cycle.phases ++ [phase] } }

/-- Ends the cycle early. -/
def abort (run : CycleRun) (reason : String) : CycleRun :=
  let run := run.enter .cycleAborted
  { run with cycle := { run.cycle with outcome := .aborted reason } }

/-- Ends the cycle with a good document. -/
def succeed (run : CycleRun) (d : Document) : CycleRun :=
  let run := run.enter .cycleSucceeded
  { run with cycle := { run.cycle with outcome := .succeeded }, mended := some d }

/-- Keeps the record of a trial. -/
def keep (run : CycleRun) (trial : Trial) : CycleRun :=
  { run with cycle := { run.cycle with trials := run.cycle.trials ++ [trial] } }

/-- Makes a move in the ledger; a refused move leaves it as it is. -/
def moveLedger (run : CycleRun) (move : Ledger → Except LedgerError Ledger) : CycleRun :=
  match move run.ledger with
  | .ok ledger => { run with ledger }
  | .error _ => run

/-- Turns a hypothesis down. -/
def reject (run : CycleRun) (trial : Trial) (reason : String) : CycleRun :=
  let run := run.tell [.hypothesisRejected run.cycle.index trial.hypothesisId reason]
  let run := run.moveLedger (·.reject trial.hypothesisId reason)
  (run.enter .hypothesisRejected).keep { trial with rejection := some reason }

/-- Whether the cycle has a good document. -/
def hasSucceeded (run : CycleRun) : Bool :=
  run.cycle.outcome = .succeeded

end CycleRun

section Cycles

variable {W : Type}

/-- Ends the cycle if the session is asked to stop. -/
def checkpoint (c : Collaborators W) (run : CycleRun) : StateM W CycleRun := do
  if ← c.isCancelled then
    return { run.abort CallError.cancelled.message with isCancelled := true }
  else
    return run

/-- Has a candidate checked, and accepts or rejects its hypothesis. -/
def checkCandidate (config : SessionConfig) (c : Collaborators W) (context : Context)
    (candidate : Document) (trial : Trial) (run : CycleRun) : StateM W CycleRun := do
  let run ← checkpoint c run
  if run.isCancelled then return run.keep trial
  let run := run.enter .verifying
  match ← c.verify candidate config.command with
  | .error e => return run.reject trial s!"verification failed: {e.message}"
  | .ok report =>
    let verdict := judge context.target context.baseline report.signatures
    let run := { run with
      cycle := { run.cycle with signatureAfter := Signature.first? report.signatures } }
    let trial := { trial with verdict := some verdict, signaturesAfter := report.signatures }
    if verdict.isFixed then
      let run := run.moveLedger (·.accept trial.hypothesisId)
      return (run.succeed candidate).keep trial
    else
      return run.reject trial verdict.reason

/-- Applies an edit to the document of the cycle, and goes on with the candidate. -/
def applyCandidate (config : SessionConfig) (c : Collaborators W) (context : Context)
    (d : Document) (edit : Edit) (trial : Trial) (run : CycleRun) : StateM W CycleRun := do
  let run := run.enter .applying
  match config.apply.applyEdit d edit with
  | .error e => return run.reject trial s!"malformed edit: {e.message}"
  | .ok outcome =>
    let run := run.tell outcome.events
    let trial := { trial with reports := outcome.reports }
    if outcome.success then
      let run := run.moveLedger (·.attempt trial.hypothesisId edit.hunks)
      checkCandidate config c context outcome.document { trial with applied := true } run
    else
      return run.reject trial "patch did not apply"

/-- Asks for the edit of a plan. -/
def generate (config : SessionConfig) (c : Collaborators W) (context : Context)
    (d : Document) (plan : String) (trial : Trial) (run : CycleRun) : StateM W CycleRun := do
  let run ← checkpoint c run
  if run.isCancelled then return run.keep trial
  let run := run.enter .generating
  match ← c.edit plan context with
  | .error e => return run.reject trial s!"edit generation failed: {e.message}"
  | .ok edit => applyCandidate config c context d edit { trial with edit := some edit } run

/-- Tries one hypothesis on the document of the cycle. -/
def tryHypothesis (config : SessionConfig) (c : Collaborators W) (context : Context)
    (d : Document) (h : Hypothesis) (run : CycleRun) : StateM W CycleRun := do
  let trial := Trial.ofHypothesis h
  let run ← checkpoint c run
  if run.isCancelled then return run.keep trial
  let run := run.enter .planning
  match ← c.plan h.explanation context with
  | .error e => return run.reject trial s!"plan failed: {e.message}"
  | .ok plan => generate config c context d plan { trial with plan := some plan } run

/-- Tries the proposed hypotheses in order until one is accepted. Each round takes one of them out of
the proposed ones, so `rounds` need not exceed their number. -/
def tryAll (config : SessionConfig) (c : Collaborators W) (context : Context) (d : Document) :
    (rounds : Nat) → CycleRun → StateM W CycleRun
  | rounds, run => do
    let run ← checkpoint c run
    if run.isCancelled then return run
    match run.ledger.selectNext with
    | .error e => return run.abort e.message
    | .ok none => return run
    | .ok (some (h, ledger)) =>
      match rounds with
      | 0 => return run
      | rounds + 1 =>
        let run := { run with ledger }.enter .hypothesisSelected
        let active := ledger.hypotheses.findIdx? (·.id = h.id)
        let run := { run with cycle := { run.cycle with active } }
        let run ← tryHypothesis config c context d h run
        if run.hasSucceeded || run.isCancelled then return run
        else tryAll config c context d rounds run

/-- Ends the trials of a cycle: if it was neither stopped nor successful, the reasons for its
rejections are carried on, and it is exhausted if every hypothesis was rejected. -/
def CycleRun.close (run : CycleRun) : CycleRun :=
  let run :=
    if run.isCancelled || run.hasSucceeded then run
    else
      let rejections := run.ledger.rejections
      if run.ledger.isExhausted then
        let run := run.enter .hypothesisExhausted
        { run with rejections, cycle := { run.cycle with outcome := .exhausted } }
      else { run with rejections }
  { run with cycle := { run.cycle with hypotheses := run.ledger.hypotheses } }

/-- The proposals that are kept. -/
def SessionConfig.limit (config : SessionConfig) (proposals : List String) : List String :=
  match config.maxHypotheses with
  | some most => proposals.take most
  | none => proposals

/-- Registers the proposals and tries them. -/
def tryProposals (config : SessionConfig) (c : Collaborators W) (context : Context)
    (d : Document) (proposals : List String) (run : CycleRun) : StateM W CycleRun := do
  match run.ledger.add (config.limit proposals) with
  | .error e => return run.abort e.message
  | .ok (ledger, added) =>
    if added.ids.isEmpty then return run.abort "no usable hypotheses proposed"
    let run ← tryAll config c context d ledger.hypotheses.length { run with ledger }
    return run.close

/-- One cycle on a document. -/
def runCycle (config : SessionConfig) (c : Collaborators W) (index : Nat) (d : Document)
    (evidence : List String) : StateM W CycleRun := do
  let run := (CycleRun.start index (c.now (← get))).enter .diagnosing
  match ← c.diagnose d evidence with
  | .error e => return run.abort e.message
  | .ok none => return (run.tell [.cycleStarted index "clean"]).succeed d
  | .ok (some context) =>
    let run := run.tell [.cycleStarted index context.target.label]
    let run := { run with
      cycle := { run.cycle with
        target := some context.target
        signatureBefore := some context.target
        baselineSize := context.baseline.length } }
    let run ← checkpoint c run
    if run.isCancelled then return run
    match ← c.propose context with
    | .error e => return run.abort e.message
    | .ok proposals => tryProposals config c context d proposals run

/-- A session under way. -/
structure SessionRun where
  /-- The input document until a cycle succeeds, the mended one from then on. -/
  document : Document
  /-- The reasons for all rejections so far. -/
  evidence : List String
  /-- The finished cycles, first one first. -/
  history : List Cycle
  outcome : SessionOutcome
  events : List Event

/-- What a finished cycle means for the session: the phase that ends it, if it does, and its outcome. -/
def CycleRun.ending (run : CycleRun) (isLast : Bool) : Option Phase × SessionOutcome :=
  if run.isCancelled then (some .sessionCancelled, .cancelled)
  else if run.hasSucceeded then (some .sessionSucceeded, .succeeded)
  else if isLast then (some .sessionFailed, .exhausted)
  else (none, .exhausted)

/-- Hands a finished cycle to the recorder. A failure is told and has no other effect. -/
def recordOrTell (write : StateM W (Except RecordError Unit)) : StateM W (List Event) := do
  match ← write with
  | .ok () => return []
  | .error e => return [.recordingFailed e]

/-- The cycles of a session from the next one on, at most `remaining`. -/
def runCycles (config : SessionConfig) (c : Collaborators W) (r : Recorder W) (id : String) :
    (remaining : Nat) → SessionRun → StateM W SessionRun
  | 0, session => return session
  | remaining + 1, session => do
    if ← c.isCancelled then return { session with outcome := .cancelled }
    let run ← runCycle config c (session.history.length + 1) session.document session.evidence
    let (terminal, outcome) := run.ending (remaining == 0)
    let run := match terminal with
      | some phase => run.enter phase
      | none => run
    let failures ← recordOrTell (r.recordCycle id run.cycle)
    let session : SessionRun := {
      document := if outcome = .succeeded then run.mended.getD session.document else session.document
      evidence := session.evidence ++ run.rejections
      history := session.history ++ [run.cycle]
      outcome
      events := session.events ++ run.events ++ failures }
    if terminal.isSome then return session
    else runCycles config c r id remaining session

/-- The last cycle of a session that was stopped between two cycles ends as cancelled. -/
def markCancelled : List Cycle → List Cycle
  | [] => []
  | [cycle] =>
    if cycle.phases.getLast? = some .sessionCancelled then [cycle]
    else [{ cycle with phases := cycle.phases ++ [.sessionCancelled] }]
  | cycle :: rest => cycle :: markCancelled rest

/-- A session on a document: its result and its events. -/
def runWith (config : SessionConfig) (c : Collaborators W) (r : Recorder W) (id : String)
    (d : Document) : StateM W (SessionResult × List Event) := do
  let startedAt := c.now (← get)
  let session ← runCycles config c r id config.maxCycles
    { document := d, evidence := [], history := [], outcome := .exhausted, events := [] }
  let history :=
    if session.outcome = .cancelled then markCancelled session.history else session.history
  let result : SessionResult := {
    sessionId := id
    outcome := session.outcome
    cyclesUsed := history.length
    document := session.document
    history
    startedAt
    finishedAt := c.now (← get) }
  let failures ← recordOrTell (r.recordResult result)
  return (result, session.events ++ [.sessionFinished result.outcome result.cyclesUsed] ++ failures)

/-- A session with settings that are checked first. -/
def runSession (config : SessionConfig) (c : Collaborators W) (r : Recorder W) (id : String)
    (d : Document) : Except SessionError (StateM W (SessionResult × List Event)) := do
  config.check
  return runWith config c r id d

end Cycles

end TextRepair
