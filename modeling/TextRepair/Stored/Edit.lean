import TextRepair.Edit
import TextRepair.Json.Decode
import TextRepair.Session.Replay

/-!
# Stored edits

The forms of hunks, edits and scripts as data values, `toJson` to write and `ofJson` to read.
-/

namespace TextRepair

namespace Hunk

def toJson (h : Hunk) : Json :=
  .object [
    ("anchor", .texts h.anchor),
    ("replacement", .texts h.replacement),
    ("hint", .option .nat h.hint),
    ("insertion_point", .option .nat h.insertionPoint)]

open Decoder RecordReader in
def ofJson : Decoder Hunk := record do
  return {
    anchor := ← required "anchor" (list text)
    replacement := ← required "replacement" (list text)
    hint := ← defaulted "hint" none (option (word UInt64.size))
    insertionPoint := ← defaulted "insertion_point" none (option (word UInt64.size)) }

end Hunk

namespace Edit

def toJson : Edit → Json
  | diff hunks => .object [("kind", .text "diff"), ("hunks", .listOf Hunk.toJson hunks)]
  | snippets before after =>
    .object [("kind", .text "snippet_pair"), ("before", .text before), ("after", .text after)]

open Decoder RecordReader in
def ofJson : Decoder Edit := tagged "kind" fun kind =>
  if kind = "diff" then some do
    return diff (← required "hunks" (list Hunk.ofJson))
  else if kind = "snippet_pair" then some do
    return snippets (← required "before" text) (← required "after" text)
  else none

end Edit

namespace ScriptedHypothesis

def toJson (h : ScriptedHypothesis) : Json :=
  .object [
    ("explanation", .text h.explanation),
    ("plan", .text h.plan),
    ("edit", h.edit.toJson)]

open Decoder RecordReader in
def ofJson : Decoder ScriptedHypothesis := record do
  return {
    explanation := ← required "explanation" text
    plan := ← defaulted "plan" "" text
    edit := ← required "edit" Edit.ofJson }

end ScriptedHypothesis

namespace Script

def toJson (s : Script) : Json :=
  .object [("cycles", .listOf
    (fun cycle => .object [("hypotheses", .listOf ScriptedHypothesis.toJson cycle)]) s.cycles)]

open Decoder RecordReader in
def ofJson : Decoder Script :=
  let cycle : Decoder (List ScriptedHypothesis) :=
    record (required "hypotheses" (list ScriptedHypothesis.ofJson))
  record do return { cycles := ← required "cycles" (list cycle) }

end Script

end TextRepair
