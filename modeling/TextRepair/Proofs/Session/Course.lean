import TextRepair.Proofs.Session.Calls

/-!
# The course of a session

What a session can do, whatever its collaborators answer, told as relations between the calls with
their answers and what the session makes of them. There is one relation for each part of a session and
one constructor for each way in which that part can end:

* `TrialCourse`, and within it `PlanCourse`, `EditCourse` and `CheckCourse` : one hypothesis.
* `Rounds` : the hypotheses of a cycle in order.
* `CycleCourse` : one cycle, with what the session takes from it (`Finished`).
* `SessionCourse` : the cycles from some point on.

A part that ends leaves the cycle in a `Standing`, and what has become of a hypothesis is determined
by its trial and this standing (`Hypothesis.settled`).
-/

namespace TextRepair

/-- How things stand in a cycle after a hypothesis was tried. -/
inductive Standing where
  /-- The hypothesis was rejected. -/
  | going
  | stopped
  | mended (d : Document)

namespace Standing

def isStopped : Standing → Bool
  | stopped => true
  | _ => false

def mended? : Standing → Option Document
  | mended d => some d
  | _ => none

/-- The outcome of a cycle that ends in this way; the one that it begins with while it goes on. -/
def outcome : Standing → CycleOutcome
  | going => .exhausted
  | stopped => .aborted CallError.cancelled.message
  | mended _ => .succeeded

/-- The status of a hypothesis whose trial ends in this way. -/
def status (applied : Bool) : Standing → Status
  | going => .rejected
  | stopped => if applied then .patchAttempted else .selected
  | mended _ => .accepted

/-- The last phase. -/
def phase : Standing → Phase
  | going => .hypothesisRejected
  | stopped => .cycleAborted
  | mended _ => .cycleSucceeded

end Standing

/-- The hunks that a trial has applied. -/
def Trial.hunks (trial : Trial) : List Hunk :=
  if trial.applied then (trial.edit.map Edit.hunks).getD [] else []

/-- What a trial makes of a hypothesis. -/
def Hypothesis.settled (h : Hypothesis) (trial : Trial) (standing : Standing) : Hypothesis :=
  { h with status := standing.status trial.applied, hunks := trial.hunks, rejection := trial.rejection }

/-- Turns a trial down. -/
def Trial.rejectedFor (trial : Trial) (reason : String) : Trial :=
  { trial with rejection := some reason }

/-- A trial whose candidate was checked. -/
def Trial.checked (trial : Trial) (verdict : Verdict) (report : CheckReport) : Trial :=
  { trial with verdict := some verdict, signaturesAfter := report.signatures }

section Courses

variable (config : SessionConfig) (context : Context)

/-- The check of a candidate: how it changes the trial, how things stand then, the phases and the
calls. -/
inductive CheckCourse (candidate : Document) (trial : Trial) :
    Trial → Standing → List Phase → List Call → Prop
  | stopped : CheckCourse candidate trial trial .stopped [.cycleAborted] [.polled true]
  | failed (e : CallError) :
    CheckCourse candidate trial (trial.rejectedFor s!"verification failed: {e.message}") .going
      [.verifying, .hypothesisRejected]
      [.polled false, .verified candidate config.command (.error e)]
  | fixed (report : CheckReport)
      (judged : judge context.target context.baseline report.signatures = .fixed) :
    CheckCourse candidate trial (trial.checked .fixed report) (.mended candidate)
      [.verifying, .cycleSucceeded]
      [.polled false, .verified candidate config.command (.ok report)]
  | turnedDown (report : CheckReport) (verdict : Verdict)
      (judged : judge context.target context.baseline report.signatures = verdict)
      (unfixed : verdict ≠ .fixed) :
    CheckCourse candidate trial ((trial.checked verdict report).rejectedFor verdict.reason) .going
      [.verifying, .hypothesisRejected]
      [.polled false, .verified candidate config.command (.ok report)]

/-- What becomes of an edit of the document `d`. -/
inductive EditCourse (d : Document) (edit : Edit) (trial : Trial) :
    Trial → Standing → List Phase → List Call → Prop
  | malformed (e : MalformedEdit) (result : config.apply.applyEdit d edit = .error e) :
    EditCourse d edit trial (trial.rejectedFor s!"malformed edit: {e.message}") .going
      [.applying, .hypothesisRejected] []
  | unplaced (out : Outcome Float) (result : config.apply.applyEdit d edit = .ok out)
      (failure : out.success = false) :
    EditCourse d edit trial
      (Trial.rejectedFor { trial with reports := out.reports } "patch did not apply") .going
      [.applying, .hypothesisRejected] []
  | applied (out : Outcome Float) (result : config.apply.applyEdit d edit = .ok out)
      (success : out.success = true) {trial' : Trial} {standing : Standing} {phases : List Phase}
      {calls : List Call}
      (check : CheckCourse config context out.document
        { trial with reports := out.reports, applied := true } trial' standing phases calls) :
    EditCourse d edit trial trial' standing (.applying :: phases) calls

/-- What becomes of a plan. -/
inductive PlanCourse (d : Document) (plan : String) (trial : Trial) :
    Trial → Standing → List Phase → List Call → Prop
  | stopped : PlanCourse d plan trial trial .stopped [.cycleAborted] [.polled true]
  | failed (e : CallError) :
    PlanCourse d plan trial (trial.rejectedFor s!"edit generation failed: {e.message}") .going
      [.generating, .hypothesisRejected] [.polled false, .edited plan context (.error e)]
  | edited (edit : Edit) {trial' : Trial} {standing : Standing} {phases : List Phase}
      {calls : List Call}
      (course : EditCourse config context d edit { trial with edit := some edit } trial' standing
        phases calls) :
    PlanCourse d plan trial trial' standing (.generating :: phases)
      (.polled false :: .edited plan context (.ok edit) :: calls)

/-- The trial of a hypothesis on the document `d`. -/
inductive TrialCourse (d : Document) (h : Hypothesis) :
    Trial → Standing → List Phase → List Call → Prop
  | stopped : TrialCourse d h (Trial.ofHypothesis h) .stopped [.cycleAborted] [.polled true]
  | failed (e : CallError) :
    TrialCourse d h ((Trial.ofHypothesis h).rejectedFor s!"plan failed: {e.message}") .going
      [.planning, .hypothesisRejected] [.polled false, .planned h.explanation context (.error e)]
  | planned (plan : String) {trial : Trial} {standing : Standing} {phases : List Phase}
      {calls : List Call}
      (course : PlanCourse config context d plan { Trial.ofHypothesis h with plan := some plan } trial
        standing phases calls) :
    TrialCourse d h trial standing (.planning :: phases)
      (.polled false :: .planned h.explanation context (.ok plan) :: calls)

/-- The trials of the hypotheses that are still to come, and what becomes of these hypotheses. -/
inductive Rounds (d : Document) : List Hypothesis → List Trial → Standing → List Phase → List Call →
    List Hypothesis → Prop
  | exhausted : Rounds d [] [] .going [] [.polled false] []
  | stopped (pending : List Hypothesis) :
    Rounds d pending [] .stopped [.cycleAborted] [.polled true] pending
  | rejected {h : Hypothesis} {pending after : List Hypothesis} {trial : Trial}
      {trials : List Trial} {standing : Standing} {phases phases' : List Phase}
      {calls calls' : List Call} (first : TrialCourse config context d h trial .going phases calls)
      (rest : Rounds d pending trials standing phases' calls' after) :
    Rounds d (h :: pending) (trial :: trials) standing (.hypothesisSelected :: phases ++ phases')
      (.polled false :: calls ++ calls') (h.settled trial .going :: after)
  | ended {h : Hypothesis} {pending : List Hypothesis} {trial : Trial} {standing : Standing}
      {phases : List Phase} {calls : List Call}
      (last : TrialCourse config context d h trial standing phases calls)
      (isEnd : standing ≠ .going) :
    Rounds d (h :: pending) [trial] standing (.hypothesisSelected :: phases)
      (.polled false :: calls) (h.settled trial standing :: pending)

end Courses

/-- What a session takes from a finished cycle. -/
structure Finished where
  cycle : Cycle
  mended : Option Document
  rejections : List String
  isCancelled : Bool

def CycleRun.finished (run : CycleRun) : Finished :=
  ⟨run.cycle, run.mended, run.rejections, run.isCancelled⟩

/-- The record of a cycle that goes after the target of `context`. -/
def Cycle.opened (index : Nat) (startedAt : Timestamp) (context : Context) : Cycle :=
  { Cycle.start index startedAt with
    target := some context.target
    signatureBefore := some context.target
    baselineSize := context.baseline.length }

/-- The index of the last one of so many entries. -/
def lastIndex : Nat → Option Nat
  | 0 => none
  | n + 1 => some n

/-- A cycle that ends before a hypothesis is tried. -/
def Cycle.abortedAtOnce (cycle : Cycle) (reason : String) : Cycle :=
  { cycle with phases := [.diagnosing, .cycleAborted], outcome := .aborted reason }

section Courses

variable (config : SessionConfig)

/-- One cycle on the document `d`. -/
inductive CycleCourse (index : Nat) (startedAt : Timestamp) (d : Document)
    (evidence : List String) : Finished → List Call → Prop
  | undiagnosed (e : CallError) :
    CycleCourse index startedAt d evidence
      ⟨(Cycle.start index startedAt).abortedAtOnce e.message, none, [], false⟩
      [.diagnosed d evidence (.error e)]
  | clean :
    CycleCourse index startedAt d evidence
      ⟨{ Cycle.start index startedAt with
          phases := [.diagnosing, .cycleSucceeded], outcome := .succeeded }, some d, [], false⟩
      [.diagnosed d evidence (.ok none)]
  | stopped (context : Context) :
    CycleCourse index startedAt d evidence
      ⟨(Cycle.opened index startedAt context).abortedAtOnce CallError.cancelled.message, none, [],
        true⟩
      [.diagnosed d evidence (.ok (some context)), .polled true]
  | unadvised (context : Context) (e : CallError) :
    CycleCourse index startedAt d evidence
      ⟨(Cycle.opened index startedAt context).abortedAtOnce e.message, none, [], false⟩
      [.diagnosed d evidence (.ok (some context)), .polled false, .proposed context (.error e)]
  | unlisted (context : Context) (proposals : List String) (e : LedgerError)
      (listed : Ledger.empty.add (config.limit proposals) = .error e) :
    CycleCourse index startedAt d evidence
      ⟨(Cycle.opened index startedAt context).abortedAtOnce e.message, none, [], false⟩
      [.diagnosed d evidence (.ok (some context)), .polled false, .proposed context (.ok proposals)]
  | unusable (context : Context) (proposals : List String) (ledger : Ledger) (added : Added)
      (listed : Ledger.empty.add (config.limit proposals) = .ok (ledger, added))
      (empty : ledger.hypotheses = []) :
    CycleCourse index startedAt d evidence
      ⟨(Cycle.opened index startedAt context).abortedAtOnce "no usable hypotheses proposed", none, [],
        false⟩
      [.diagnosed d evidence (.ok (some context)), .polled false, .proposed context (.ok proposals)]
  | exhausted (context : Context) (proposals : List String) (ledger : Ledger) (added : Added)
      (listed : Ledger.empty.add (config.limit proposals) = .ok (ledger, added))
      (nonempty : ledger.hypotheses ≠ []) {trials : List Trial} {phases : List Phase}
      {calls : List Call} {hypotheses : List Hypothesis} (signatureAfter : Option Signature)
      (rounds : Rounds config context d ledger.hypotheses trials .going phases calls hypotheses) :
    CycleCourse index startedAt d evidence
      ⟨{ Cycle.opened index startedAt context with
          phases := .diagnosing :: phases ++ [.hypothesisExhausted]
          active := lastIndex trials.length
          trials, hypotheses, signatureAfter, outcome := .exhausted },
        none, (Ledger.mk hypotheses ledger.nextId).rejections, false⟩
      (.diagnosed d evidence (.ok (some context)) :: .polled false
        :: .proposed context (.ok proposals) :: calls)
  | ended (context : Context) (proposals : List String) (ledger : Ledger) (added : Added)
      (listed : Ledger.empty.add (config.limit proposals) = .ok (ledger, added))
      (nonempty : ledger.hypotheses ≠ []) {trials : List Trial} {standing : Standing}
      {phases : List Phase} {calls : List Call} {hypotheses : List Hypothesis}
      (signatureAfter : Option Signature)
      (rounds : Rounds config context d ledger.hypotheses trials standing phases calls hypotheses)
      (isEnd : standing ≠ .going) :
    CycleCourse index startedAt d evidence
      ⟨{ Cycle.opened index startedAt context with
          phases := .diagnosing :: phases
          active := lastIndex trials.length
          trials, hypotheses, signatureAfter, outcome := standing.outcome },
        standing.mended?, [], standing.isStopped⟩
      (.diagnosed d evidence (.ok (some context)) :: .polled false
        :: .proposed context (.ok proposals) :: calls)

/-- A cycle that goes to a last phase. -/
def Cycle.closed (cycle : Cycle) (phase : Phase) : Cycle :=
  { cycle with phases := cycle.phases ++ [phase] }

/-- The cycles of a session on the document `d` from the next one on: at most `remaining`, after `used`
ones. It relates them to the outcome and the document of the session and to the calls. -/
inductive SessionCourse (id : String) (d : Document) : (remaining used : Nat) →
    (evidence : List String) → List Cycle → SessionOutcome → Document → List Call → Prop
  | bound (used : Nat) (evidence : List String) :
    SessionCourse id d 0 used evidence [] .exhausted d []
  | stopped (remaining used : Nat) (evidence : List String) :
    SessionCourse id d (remaining + 1) used evidence [] .cancelled d [.polled true]
  | cancelled {remaining used : Nat} {evidence : List String} {startedAt : Timestamp}
      {last : Finished} {calls : List Call}
      (course : CycleCourse config (used + 1) startedAt d evidence last calls)
      (stop : last.isCancelled = true) (answer : Except RecordError Unit) :
    SessionCourse id d (remaining + 1) used evidence [last.cycle.closed .sessionCancelled] .cancelled
      d (.polled false :: calls
        ++ [.recordedCycle id (last.cycle.closed .sessionCancelled) answer])
  | succeeded {remaining used : Nat} {evidence : List String} {startedAt : Timestamp}
      {last : Finished} {calls : List Call}
      (course : CycleCourse config (used + 1) startedAt d evidence last calls)
      (go : last.isCancelled = false) (success : last.cycle.outcome = .succeeded)
      (answer : Except RecordError Unit) :
    SessionCourse id d (remaining + 1) used evidence [last.cycle.closed .sessionSucceeded] .succeeded
      (last.mended.getD d) (.polled false :: calls
        ++ [.recordedCycle id (last.cycle.closed .sessionSucceeded) answer])
  | failed {used : Nat} {evidence : List String} {startedAt : Timestamp} {last : Finished}
      {calls : List Call} (course : CycleCourse config (used + 1) startedAt d evidence last calls)
      (go : last.isCancelled = false) (failure : last.cycle.outcome ≠ .succeeded)
      (answer : Except RecordError Unit) :
    SessionCourse id d 1 used evidence [last.cycle.closed .sessionFailed] .exhausted d
      (.polled false :: calls ++ [.recordedCycle id (last.cycle.closed .sessionFailed) answer])
  | next {remaining used : Nat} {evidence : List String} {startedAt : Timestamp}
      {first : Finished} {calls calls' : List Call} {history : List Cycle}
      {outcome : SessionOutcome} {document : Document}
      (course : CycleCourse config (used + 1) startedAt d evidence first calls)
      (go : first.isCancelled = false) (failure : first.cycle.outcome ≠ .succeeded)
      (answer : Except RecordError Unit)
      (rest : SessionCourse id d (remaining + 1) (used + 1) (evidence ++ first.rejections) history
        outcome document calls') :
    SessionCourse id d (remaining + 2) used evidence (first.cycle :: history) outcome document
      (.polled false :: calls ++ .recordedCycle id first.cycle answer :: calls')

end Courses

end TextRepair
