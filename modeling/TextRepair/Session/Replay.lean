import TextRepair.Session.Collaborators
import TextRepair.Text.Quoted

/-!
# Scripted sessions

`Replay` plays the advisor from a script with one entry per cycle, and `Rule` plays the check, with
diagnostics that depend on the text of the candidate. Both together run a session without a model
and without a compiler.
-/

namespace TextRepair

/-- An explanation with its plan and its edit. -/
structure ScriptedHypothesis where
  explanation : String
  /-- The plan; if empty, the explanation serves. -/
  plan : String
  edit : Edit
  deriving Repr, Inhabited

/-- What an advisor says, cycle by cycle. -/
structure Script where
  cycles : List (List ScriptedHypothesis)
  deriving Repr, Inhabited

/-- A script being played. -/
structure Replay where
  script : Script
  /-- The number of cycles for which hypotheses were asked. -/
  served : Nat
  /-- The hypothesis that has been planned and not yet turned into an edit. -/
  current : Option ScriptedHypothesis
  deriving Repr

namespace Replay

/-- The start of a script. -/
def ofScript (script : Script) : Replay :=
  { script, served := 0, current := none }

/-- The hypotheses of the cycle last asked for; none before the first and after the last one. -/
def hypotheses (r : Replay) : List ScriptedHypothesis :=
  match r.served with
  | 0 => []
  | n + 1 => r.script.cycles.getD n []

/-- Goes to the next cycle and tells its explanations. -/
def propose : StateM Replay (Answer (List String)) := do
  modify fun r => { r with served := r.served + 1 }
  return .ok ((← get).hypotheses.map (·.explanation))

/-- The plan of the first hypothesis with this explanation, outer blanks aside. -/
def plan (explanation : String) : StateM Replay (Answer String) := do
  let r ← get
  match r.hypotheses.find? fun h => Text.trim h.explanation = explanation with
  | none => return .error (.advice s!"no scripted plan for hypothesis {Text.quoted explanation}")
  | some h =>
    set { r with current := some h }
    return .ok (if h.plan.isEmpty then h.explanation else h.plan)

/-- The edit of the hypothesis planned last, once. -/
def edit : StateM Replay (Answer Edit) := do
  let r ← get
  match r.current with
  | none => return .error (.advice "edit requested before plan")
  | some h =>
    set { r with current := none }
    return .ok h.edit

end Replay

/-- Whether `needle` occurs in `cs`. -/
def occursIn (needle : List Char) : List Char → Bool
  | [] => needle.isEmpty
  | c :: cs => needle.isPrefixOf (c :: cs) || occursIn needle cs

/-- A rule for the diagnostics of a document. -/
inductive Rule where
  /-- At the start of the first line that contains the needle. -/
  | first (needle : String) (signature : Signature)
  /-- On each line that contains the needle, in the given column. -/
  | each (needle : String) (signature : Signature) (column : Option Nat)
  /-- Once, if no line contains the needle. -/
  | absent (needle : String) (signature : Signature)
  | always (signature : Signature)
  deriving Repr

namespace Rule

/-- Whether a line contains the needle. -/
def holds (needle : String) (line : Line) : Bool :=
  occursIn needle.toList line.text.toList

/-- The numbers of the lines that contain the needle, from 1 on. -/
def hits (needle : String) (d : Document) : List Nat :=
  (d.lines.zipIdx 1).filterMap fun (line, number) => if holds needle line then some number else none

/-- The diagnostics of a document. -/
def signatures (d : Document) : Rule → List Signature
  | first needle signature =>
    (hits needle d).head?.toList.map fun line =>
      { signature with line := some line, column := some 1 }
  | each needle signature column =>
    (hits needle d).map fun line => { signature with line := some line, column }
  | absent needle signature => if d.lines.any (holds needle) then [] else [signature]
  | always signature => [signature]

/-- The report of a check by rules, in their order. -/
def report (rules : List Rule) (d : Document) : CheckReport :=
  .ofSignatures (rules.flatMap (signatures d))

end Rule

end TextRepair
