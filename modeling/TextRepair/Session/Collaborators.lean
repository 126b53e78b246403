import TextRepair.Document
import TextRepair.Edit
import TextRepair.Signature
import TextRepair.Timestamp

/-!
# Collaborators of a session

A session calls out for four things: a diagnosis, advice (hypotheses, a plan, an edit), a check of a
candidate, and the recording of what happened. What they answer depends on a world of any type,
which each call may change.
-/

namespace TextRepair

/-- The failure of a call. It concerns one hypothesis or one cycle, never the session. -/
inductive CallError where
  | diagnosis (text : String)
  | advice (text : String)
  | verification (text : String)
  | timeout (stage : String) (seconds : Nat)
  | cancelled
  deriving DecidableEq, Repr

namespace CallError

def message : CallError → String
  | diagnosis text => s!"diagnosis failed: {text}"
  | advice text => s!"advisor failed: {text}"
  | verification text => s!"verification failed: {text}"
  | timeout stage seconds => s!"{stage} timed out after {seconds}s"
  | cancelled => "cancelled"

end CallError

/-- What is known about the error that a cycle is after. -/
structure Context where
  target : Signature
  /-- Every diagnostic reported together with the target. -/
  baseline : List Signature
  /-- Numbered lines around the target. -/
  window : String
  /-- The reasons for earlier rejections. -/
  evidence : List String
  deriving DecidableEq, Repr, Inhabited

/-- A context as a text for an advisor. -/
def Context.render (c : Context) : String :=
  let rejected := c.evidence.map fun reason => "- " ++ reason ++ "\n"
  "error: " ++ c.target.label ++ "\n\n" ++ c.window ++
    if c.evidence.isEmpty then "" else "\npreviously rejected:\n" ++ String.join rejected

/-- The result of a check. -/
structure CheckReport where
  stdout : String
  stderr : String
  signatures : List Signature
  /-- None if the command was ended by a signal. -/
  exitCode : Option Int
  deriving DecidableEq, Repr, Inhabited

namespace CheckReport

/-- The report of a check that says nothing but these diagnostics. -/
def ofSignatures (signatures : List Signature) : CheckReport :=
  { stdout := "", stderr := "", signatures
    exitCode := some (if signatures.any Signature.isBlocking then 1 else 0) }

/-- Whether nothing stands in the way. -/
def isClean (r : CheckReport) : Bool :=
  !r.signatures.any Signature.isBlocking

end CheckReport

/-- What a call answers. -/
abbrev Answer (α : Type) := Except CallError α

/-- Those who diagnose, advise and check, and the flag that asks a session to stop. -/
structure Collaborators (W : Type) where
  /-- The error to go after, none if the document has none, given the earlier rejections. -/
  diagnose : Document → List String → StateM W (Answer (Option Context))
  /-- Explanations that exclude each other, most likely first. -/
  propose : Context → StateM W (Answer (List String))
  /-- A plan for an explanation. -/
  plan : String → Context → StateM W (Answer String)
  /-- An edit for a plan. -/
  edit : String → Context → StateM W (Answer Edit)
  /-- The check of a document by a command. -/
  verify : Document → List String → StateM W (Answer CheckReport)
  /-- Whether the session is asked to stop. The flag may change between any two looks at it. -/
  isCancelled : StateM W Bool
  /-- The present time. -/
  now : W → Timestamp

/-- The diagnosis by a check: the first blocking diagnostic and the lines around it. -/
def diagnoseBy {W : Type} (verify : Document → List String → StateM W (Answer CheckReport))
    (command : List String) (radius : Nat) (d : Document) (evidence : List String) :
    StateM W (Answer (Option Context)) := do
  match ← verify d command with
  | .error e => return .error e
  | .ok report =>
    match Signature.first? report.signatures with
    | none => return .ok none
    | some target =>
      let window := d.window (target.lineIndex?.getD 0) radius
      return .ok (some { target, baseline := report.signatures, window, evidence })

end TextRepair
