import TextRepair.Session.Record
import TextRepair.Stored.Edit
import TextRepair.Stored.Report

/-!
# Stored sessions

The forms of diagnostics, hypotheses, cycles and results of sessions as data values.
-/

namespace TextRepair

namespace Timestamp

def toJson (t : Timestamp) : Json :=
  .text t.toText

def ofJson : Decoder Timestamp := fun s j =>
  (Decoder.text s j).bind ofText?

end Timestamp

namespace Severity

def toJson (s : Severity) : Json :=
  .text s.name

def ofJson : Decoder Severity :=
  Decoder.enum all name

end Severity

namespace Signature

def toJson (s : Signature) : Json :=
  .object [
    ("severity", s.severity.toJson),
    ("code", .option .text s.code),
    ("message", .text s.message),
    ("file", .option .text s.file),
    ("line", .option .nat s.line),
    ("column", .option .nat s.column)]

open Decoder RecordReader in
def ofJson : Decoder Signature := record do
  return {
    severity := ← required "severity" Severity.ofJson
    code := ← nullable "code" text
    message := ← required "message" text
    file := ← nullable "file" text
    line := ← nullable "line" (word UInt32.size)
    column := ← nullable "column" (word UInt32.size) }

end Signature

namespace Verdict

def toJson : Verdict → Json
  | fixed => .object [("verdict", .text "fixed")]
  | targetPersists => .object [("verdict", .text "target_persists")]
  | newError signature =>
    .object [("verdict", .text "new_error"), ("signature", signature.toJson)]

open Decoder RecordReader in
def ofJson : Decoder Verdict := tagged "verdict" fun kind =>
  if kind = "fixed" then some (return fixed)
  else if kind = "target_persists" then some (return targetPersists)
  else if kind = "new_error" then some do
    return newError (← required "signature" Signature.ofJson)
  else none

end Verdict

namespace Context

def toJson (c : Context) : Json :=
  .object [
    ("target", c.target.toJson),
    ("baseline", .listOf Signature.toJson c.baseline),
    ("window", .text c.window),
    ("evidence", .texts c.evidence)]

open Decoder RecordReader in
def ofJson : Decoder Context := record do
  return {
    target := ← required "target" Signature.ofJson
    baseline := ← required "baseline" (list Signature.ofJson)
    window := ← required "window" text
    evidence := ← defaulted "evidence" [] (list text) }

end Context

namespace CheckReport

def toJson (r : CheckReport) : Json :=
  .object [
    ("stdout", .text r.stdout),
    ("stderr", .text r.stderr),
    ("signatures", .listOf Signature.toJson r.signatures),
    ("exit_code", .option .int r.exitCode)]

open Decoder RecordReader in
def ofJson : Decoder CheckReport := record do
  return {
    stdout := ← required "stdout" text
    stderr := ← required "stderr" text
    signatures := ← required "signatures" (list Signature.ofJson)
    exitCode := ← nullable "exit_code" (signedWord UInt32.size) }

end CheckReport

namespace Status

def toJson (s : Status) : Json :=
  .text s.name

def ofJson : Decoder Status :=
  Decoder.enum all name

end Status

namespace Hypothesis

def toJson (h : Hypothesis) : Json :=
  .object [
    ("id", .nat h.id),
    ("explanation", .text h.explanation),
    ("state", h.status.toJson),
    ("hunks", .listOf Hunk.toJson h.hunks),
    ("rejection_reason", .option .text h.rejection)]

open Decoder RecordReader in
def ofJson : Decoder Hypothesis := record do
  return {
    id := ← required "id" (word UInt32.size)
    explanation := ← required "explanation" text
    status := ← required "state" Status.ofJson
    hunks := ← defaulted "hunks" [] (list Hunk.ofJson)
    rejection := ← defaulted "rejection_reason" none (option text) }

end Hypothesis

namespace Phase

def toJson (p : Phase) : Json :=
  .text p.name

def ofJson : Decoder Phase :=
  Decoder.enum all name

end Phase

namespace CycleOutcome

def toJson : CycleOutcome → Json
  | succeeded => .object [("status", .text "succeeded")]
  | exhausted => .object [("status", .text "exhausted")]
  | aborted reason => .object [("status", .text "aborted"), ("reason", .text reason)]

open Decoder RecordReader in
def ofJson : Decoder CycleOutcome := tagged "status" fun kind =>
  if kind = "succeeded" then some (return succeeded)
  else if kind = "exhausted" then some (return exhausted)
  else if kind = "aborted" then some do
    return aborted (← required "reason" text)
  else none

end CycleOutcome

namespace Trial

def toJson (t : Trial) : Json :=
  .object [
    ("hypothesis_id", .nat t.hypothesisId),
    ("explanation", .text t.explanation),
    ("plan", .option .text t.plan),
    ("edit", .option Edit.toJson t.edit),
    ("apply_report", .listOf HunkReport.toJson t.reports),
    ("applied", .bool t.applied),
    ("verdict", .option Verdict.toJson t.verdict),
    ("signatures_after", .listOf Signature.toJson t.signaturesAfter),
    ("rejection", .option .text t.rejection)]

open Decoder RecordReader in
def ofJson : Decoder Trial := record do
  return {
    hypothesisId := ← required "hypothesis_id" (word UInt32.size)
    explanation := ← required "explanation" text
    plan := ← nullable "plan" text
    edit := ← nullable "edit" Edit.ofJson
    reports := ← required "apply_report" (list HunkReport.ofJson)
    applied := ← required "applied" bool
    verdict := ← nullable "verdict" Verdict.ofJson
    signaturesAfter := ← required "signatures_after" (list Signature.ofJson)
    rejection := ← nullable "rejection" text }

end Trial

namespace Cycle

def toJson (c : Cycle) : Json :=
  .object [
    ("index", .nat c.index),
    ("started_at", c.startedAt.toJson),
    ("target", .option Signature.toJson c.target),
    ("baseline_size", .nat c.baselineSize),
    ("hypotheses", .listOf Hypothesis.toJson c.hypotheses),
    ("active", .option .nat c.active),
    ("attempts", .listOf Trial.toJson c.trials),
    ("transitions", .listOf Phase.toJson c.phases),
    ("outcome", c.outcome.toJson),
    ("signature_before", .option Signature.toJson c.signatureBefore),
    ("signature_after", .option Signature.toJson c.signatureAfter)]

open Decoder RecordReader in
def ofJson : Decoder Cycle := record do
  return {
    index := ← required "index" (word UInt32.size)
    startedAt := ← required "started_at" Timestamp.ofJson
    target := ← nullable "target" Signature.ofJson
    baselineSize := ← required "baseline_size" (word UInt64.size)
    hypotheses := ← required "hypotheses" (list Hypothesis.ofJson)
    active := ← nullable "active" (word UInt64.size)
    trials := ← required "attempts" (list Trial.ofJson)
    phases := ← required "transitions" (list Phase.ofJson)
    outcome := ← required "outcome" CycleOutcome.ofJson
    signatureBefore := ← nullable "signature_before" Signature.ofJson
    signatureAfter := ← nullable "signature_after" Signature.ofJson }

end Cycle

namespace SessionOutcome

def toJson (o : SessionOutcome) : Json :=
  .text o.name

def ofJson : Decoder SessionOutcome :=
  Decoder.enum all name

end SessionOutcome

namespace SessionResult

def toJson (r : SessionResult) : Json :=
  .object [
    ("session_id", .text r.sessionId),
    ("outcome", r.outcome.toJson),
    ("cycles_used", .nat r.cyclesUsed),
    ("final_document", r.document.toJson),
    ("cycle_history", .listOf Cycle.toJson r.history),
    ("started_at", r.startedAt.toJson),
    ("finished_at", r.finishedAt.toJson)]

open Decoder RecordReader in
def ofJson : Decoder SessionResult := record do
  return {
    sessionId := ← required "session_id" text
    outcome := ← required "outcome" SessionOutcome.ofJson
    cyclesUsed := ← required "cycles_used" (word UInt32.size)
    document := ← required "final_document" Document.ofJson
    history := ← required "cycle_history" (list Cycle.ofJson)
    startedAt := ← required "started_at" Timestamp.ofJson
    finishedAt := ← required "finished_at" Timestamp.ofJson }

end SessionResult

end TextRepair
