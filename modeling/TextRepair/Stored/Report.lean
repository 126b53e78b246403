import TextRepair.Json.Decode
import TextRepair.Report

/-!
# Stored reports

The forms of documents, candidates, reports and results of applications as data values. A document is
stored as its text.
-/

namespace TextRepair

namespace Strategy

def toJson (s : Strategy) : Json :=
  .text s.name

def ofJson : Decoder Strategy :=
  Decoder.enum all name

end Strategy

namespace Ending

/-- All terminators. -/
def all : List Ending :=
  [lf, crlf, cr, none]

/-- The name in stored data. -/
def name : Ending → String
  | lf => "lf"
  | crlf => "cr_lf"
  | cr => "cr"
  | none => "none"

def toJson (e : Ending) : Json :=
  .text e.name

def ofJson : Decoder Ending :=
  Decoder.enum all name

end Ending

namespace Document

def toJson (d : Document) : Json :=
  .text d.toText

def ofJson : Decoder Document := fun s j =>
  (Decoder.text s j).map parse

end Document

namespace Candidate

def toJson (c : Candidate Float) : Json :=
  .object [
    ("start", .nat c.start),
    ("end", .nat c.stop),
    ("confidence", .float c.confidence),
    ("strategy", c.strategy.toJson),
    ("alternatives", .nat c.alternatives)]

open Decoder RecordReader in
def ofJson : Decoder (Candidate Float) := record do
  return {
    start := ← required "start" (word UInt64.size)
    stop := ← required "end" (word UInt64.size)
    confidence := ← required "confidence" number
    strategy := ← required "strategy" Strategy.ofJson
    alternatives := ← defaulted "alternatives" 0 (word UInt64.size) }

end Candidate

namespace Attempt

def toJson (a : Attempt Float) : Json :=
  .object [
    ("strategy", a.strategy.toJson),
    ("best_confidence", .option .float a.confidence)]

open Decoder RecordReader in
def ofJson : Decoder (Attempt Float) := record do
  return {
    strategy := ← required "strategy" Strategy.ofJson
    confidence := ← nullable "best_confidence" number }

end Attempt

namespace NoMatch

def toJson (f : NoMatch Float) : Json :=
  .object [
    ("kind", .text "no_match"),
    ("best_strategy", .option Strategy.toJson f.strategy),
    ("best_confidence", .option .float f.confidence)]

open Decoder RecordReader in
def ofJson : Decoder (NoMatch Float) := tagged "kind" fun kind =>
  if kind = "no_match" then some do
    return {
      strategy := ← nullable "best_strategy" Strategy.ofJson
      confidence := ← nullable "best_confidence" number }
  else none

end NoMatch

namespace HunkReport

def toJson (r : HunkReport Float) : Json :=
  .object [
    ("index", .nat r.index),
    ("matched", .bool r.matched),
    ("candidate", .option Candidate.toJson r.candidate),
    ("strategy", .option Strategy.toJson r.strategy),
    ("confidence", .option .float r.confidence),
    ("ambiguous", .bool r.ambiguous),
    ("attempts", .listOf Attempt.toJson r.attempts),
    ("failure", .option NoMatch.toJson r.failure)]

open Decoder RecordReader in
def ofJson : Decoder (HunkReport Float) := record do
  return {
    index := ← required "index" (word UInt64.size)
    matched := ← required "matched" bool
    candidate := ← nullable "candidate" Candidate.ofJson
    strategy := ← nullable "strategy" Strategy.ofJson
    confidence := ← nullable "confidence" number
    ambiguous := ← required "ambiguous" bool
    attempts := ← required "attempts" (list Attempt.ofJson)
    failure := ← nullable "failure" NoMatch.ofJson }

end HunkReport

namespace Outcome

def toJson (o : Outcome Float) : Json :=
  .object [
    ("hunks", .listOf HunkReport.toJson o.reports),
    ("document", o.document.toJson),
    ("success", .bool o.success)]

open Decoder RecordReader in
def ofJson : Decoder (Outcome Float) := record do
  return {
    reports := ← required "hunks" (list HunkReport.ofJson)
    document := ← required "document" Document.ofJson
    success := ← required "success" bool }

end Outcome

namespace TextOutcome

def toJson (o : TextOutcome Float) : Json :=
  .object [
    ("patched_text", .text o.text),
    ("success", .bool o.success),
    ("diagnostics", .listOf HunkReport.toJson o.reports)]

open Decoder RecordReader in
def ofJson : Decoder (TextOutcome Float) := record do
  return {
    text := ← required "patched_text" Decoder.text
    success := ← required "success" bool
    reports := ← required "diagnostics" (list HunkReport.ofJson) }

end TextOutcome

end TextRepair
