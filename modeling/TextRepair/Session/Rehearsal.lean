import TextRepair.Session.Replay
import TextRepair.Session.Run

/-!
# Rehearsals

A rehearsal is a world for sessions in which a script advises, rules check, and faults happen at
appointed calls: a call fails instead of being answered, or asks the session to stop. Every call is
noted, and so is every cycle and result that is recorded.
-/

namespace TextRepair

/-- A kind of call. -/
inductive Stage where
  | diagnose
  | propose
  | plan
  | edit
  | verify
  deriving DecidableEq, Repr, Inhabited

namespace Stage

/-- All kinds of calls. -/
def all : List Stage :=
  [diagnose, propose, plan, edit, verify]

/-- The name in a log. -/
def name : Stage → String
  | diagnose => "diagnose"
  | propose => "hypotheses"
  | plan => "plan"
  | edit => "edit"
  | verify => "verify"

end Stage

/-- What happens at a call of a kind, counted from 1: the session is asked to stop, the call fails, or
both. -/
structure Fault where
  stage : Stage
  call : Nat
  cancels : Bool
  error : Option CallError
  deriving Repr

/-- What a call was about. -/
inductive Detail where
  | text (s : String)
  | texts (ss : List String)
  deriving DecidableEq, Repr

/-- An entry of the log. -/
inductive LogEntry where
  | called (stage : Stage) (detail : Detail)
  /-- What a diagnosis has found. -/
  | context (rendered : Option String)
  deriving DecidableEq, Repr

/-- The world of a rehearsal. -/
structure Rehearsal where
  replay : Replay
  rules : List Rule
  faults : List Fault
  /-- The calls so far, last one first. -/
  calls : List Stage
  log : List LogEntry
  isCancelled : Bool
  /-- How many checks the rules have answered. -/
  checks : Nat
  cycles : List Cycle
  results : List SessionResult

namespace Rehearsal

/-- The world before a session. -/
def start (script : Script) (rules : List Rule) (faults : List Fault) (isCancelled : Bool) :
    Rehearsal where
  replay := .ofScript script
  rules
  faults
  calls := []
  log := []
  isCancelled
  checks := 0
  cycles := []
  results := []

/-- Adds an entry to the log. -/
def note (entry : LogEntry) : StateM Rehearsal Unit :=
  modify fun w => { w with log := w.log ++ [entry] }

/-- The faults of a call in order: each may ask to stop, and the first error ends the call. -/
def strike : List Fault → StateM Rehearsal (Option CallError)
  | [] => return none
  | fault :: rest => do
    if fault.cancels then modify fun w => { w with isCancelled := true }
    match fault.error with
    | some e => return some e
    | none => strike rest

/-- A call that is noted, counted and exposed to its faults before it is answered. -/
def exposed {α : Type} (stage : Stage) (detail : Detail) (answer : StateM Rehearsal (Answer α)) :
    StateM Rehearsal (Answer α) := do
  note (.called stage detail)
  modify fun w => { w with calls := stage :: w.calls }
  let w ← get
  let call := w.calls.count stage
  match ← strike (w.faults.filter fun f => f.stage = stage && f.call = call) with
  | some e => return .error e
  | none => answer

/-- An answer of the script. -/
def advise {α : Type} (answer : StateM Replay (Answer α)) : StateM Rehearsal (Answer α) :=
  fun w =>
    let (result, replay) := answer w.replay
    (result, { w with replay })

/-- A check by the rules. -/
def verify (d : Document) (command : List String) : StateM Rehearsal (Answer CheckReport) :=
  exposed .verify (.texts command) do
    modify fun w => { w with checks := w.checks + 1 }
    return .ok (Rule.report (← get).rules d)

/-- A diagnosis by the rules, with what it has found noted. -/
def diagnose (command : List String) (radius : Nat) (d : Document) (evidence : List String) :
    StateM Rehearsal (Answer (Option Context)) :=
  exposed .diagnose (.texts evidence) do
    let answer ← diagnoseBy verify command radius d evidence
    if let .ok found := answer then note (.context (found.map Context.render))
    return answer

/-- Those who take part. -/
def collaborators (config : SessionConfig) : Collaborators Rehearsal where
  diagnose := diagnose config.command config.contextRadius
  propose context := exposed .propose (.text context.target.label) (advise Replay.propose)
  plan explanation _ := exposed .plan (.text explanation) (advise (Replay.plan explanation))
  edit plan _ := exposed .edit (.text plan) (advise Replay.edit)
  verify := verify
  isCancelled := return (← get).isCancelled
  now _ := default

/-- Those who take part if nobody can ask the session to stop and diagnoses are not noted. -/
def uninterrupted (config : SessionConfig) : Collaborators Rehearsal :=
  { collaborators config with
    diagnose := diagnoseBy verify config.command config.contextRadius
    isCancelled := pure false }

/-- Keeps what is recorded in the world. -/
def recorder : Recorder Rehearsal where
  recordCycle _ cycle := do
    modify fun w => { w with cycles := w.cycles ++ [cycle] }
    return .ok ()
  recordResult result := do
    modify fun w => { w with results := w.results ++ [result] }
    return .ok ()

end Rehearsal

end TextRepair
