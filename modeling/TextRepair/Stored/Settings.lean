import TextRepair.Settings
import TextRepair.Stored.Report

/-!
# Stored settings

The forms of settings as data values. Every field may be missing.
-/

namespace TextRepair

namespace Options

def toJson (o : Options Float) : Json :=
  .object [
    ("similarity_threshold", .float o.similarityThreshold),
    ("intent_threshold", .float o.intentThreshold),
    ("strategy_order", .listOf Strategy.toJson o.order),
    ("max_hunks", .option .nat o.maxHunks),
    ("window_slack", .nat o.windowSlack),
    ("reindent", .bool o.reindent)]

open Decoder RecordReader in
def ofJson : Decoder (Options Float) :=
  let d : Options Float := standard
  record do
    return {
      similarityThreshold := ← defaulted "similarity_threshold" d.similarityThreshold number
      intentThreshold := ← defaulted "intent_threshold" d.intentThreshold number
      order := ← defaulted "strategy_order" d.order (list Strategy.ofJson)
      maxHunks := ← defaulted "max_hunks" d.maxHunks (option (word UInt64.size))
      windowSlack := ← defaulted "window_slack" d.windowSlack (word UInt64.size)
      reindent := ← defaulted "reindent" d.reindent bool }

end Options

namespace SessionConfig

def toJson (c : SessionConfig) : Json :=
  .object [
    ("max_cycles", .nat c.maxCycles),
    ("compile_command", .texts c.command),
    ("max_hypotheses_per_cycle", .option .nat c.maxHypotheses),
    ("context_radius", .nat c.contextRadius),
    ("apply", c.apply.toJson)]

open Decoder RecordReader in
def ofJson : Decoder SessionConfig :=
  let d := standard
  record do
    return {
      maxCycles := ← defaulted "max_cycles" d.maxCycles (word UInt32.size)
      command := ← defaulted "compile_command" d.command (list text)
      maxHypotheses := ← defaulted "max_hypotheses_per_cycle" d.maxHypotheses (option (word UInt64.size))
      contextRadius := ← defaulted "context_radius" d.contextRadius (word UInt64.size)
      apply := ← defaulted "apply" d.apply Options.ofJson }

end SessionConfig

namespace CheckSettings

def toJson (c : CheckSettings) : Json :=
  .object [
    ("target_path", .option .text c.target),
    ("timeout_secs", .nat c.seconds),
    ("workdir", .option .text c.workdir)]

open Decoder RecordReader in
def ofJson : Decoder CheckSettings :=
  let d := standard
  record do
    return {
      target := ← defaulted "target_path" d.target (option text)
      seconds := ← defaulted "timeout_secs" d.seconds (word UInt64.size)
      workdir := ← defaulted "workdir" d.workdir (option text) }

end CheckSettings

namespace Settings

def toJson (s : Settings) : Json :=
  .object [
    ("apply", s.apply.toJson),
    ("session", s.session.toJson),
    ("verifier", s.check.toJson)]

open Decoder RecordReader in
def ofJson : Decoder Settings :=
  let d := standard
  record do
    return {
      apply := ← defaulted "apply" d.apply Options.ofJson
      session := ← defaulted "session" d.session SessionConfig.ofJson
      check := ← defaulted "verifier" d.check CheckSettings.ofJson }

end Settings

end TextRepair
