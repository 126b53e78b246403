import TextRepair.Edit.Hunk

/-!
# Hypotheses

A ledger holds the explanations of one cycle in the order in which they were proposed, and what has
become of each. At most one is being worked on at a time; a rejected or accepted one stays so.

* `Ledger.add` : registers explanations, blank and known ones dropped.
* `Ledger.selectNext`, `attempt`, `reject`, `accept` : the moves of a hypothesis.
-/

namespace TextRepair

/-- What has become of a hypothesis. -/
inductive Status where
  | proposed
  | selected
  | patchAttempted
  | rejected
  | accepted
  deriving DecidableEq, Repr, Inhabited

namespace Status

/-- All statuses. -/
def all : List Status :=
  [proposed, selected, patchAttempted, rejected, accepted]

/-- The name in messages and stored data. -/
def name : Status → String
  | proposed => "proposed"
  | selected => "selected"
  | patchAttempted => "patch_attempted"
  | rejected => "rejected"
  | accepted => "accepted"

/-- Whether the hypothesis is being worked on. -/
def isActive : Status → Bool
  | selected | patchAttempted => true
  | _ => false

end Status

/-- A possible cause of an error, and what was tried for it. -/
structure Hypothesis where
  id : Nat
  explanation : String
  status : Status
  /-- The hunks that were applied for it. -/
  hunks : List Hunk
  rejection : Option String
  deriving DecidableEq, Repr, Inhabited

/-- A move that a ledger refuses. -/
inductive LedgerError where
  | emptyProposal
  | unknown (id : Nat)
  | badMove (id : Nat) (origin target : Status)
  /-- Another hypothesis is being worked on. -/
  | active (id : Nat)
  deriving DecidableEq, Repr

namespace LedgerError

def message : LedgerError → String
  | emptyProposal => "hypothesis proposal must contain at least one explanation"
  | unknown id => s!"unknown hypothesis {id}"
  | badMove id origin target => s!"hypothesis {id} cannot move from {origin.name} to {target.name}"
  | active id => s!"hypothesis {id} is already selected"

end LedgerError

/-- The hypotheses of a cycle in the order of their proposal, and the next identifier. -/
structure Ledger where
  hypotheses : List Hypothesis
  nextId : Nat
  deriving DecidableEq, Repr

/-- What `Ledger.add` did: the new identifiers, and how many explanations were dropped. -/
structure Added where
  ids : List Nat
  dropped : Nat
  deriving DecidableEq, Repr

namespace Ledger

/-- A ledger without hypotheses. -/
def empty : Ledger :=
  { hypotheses := [], nextId := 1 }

/-- A ledger whose counter has not been set; its first identifier is 1 too. -/
def blank : Ledger :=
  { hypotheses := [], nextId := 0 }

instance : Inhabited Ledger := ⟨empty⟩

/-- Whether an explanation is already there. -/
def knows (l : Ledger) (explanation : String) : Bool :=
  l.hypotheses.any (·.explanation = explanation)

/-- Registers one explanation without its outer blanks, unless it is blank or already there. -/
def addOne (state : Ledger × Added) (explanation : String) : Ledger × Added :=
  let (l, added) := state
  let text := Text.trim explanation
  if text.isEmpty || l.knows text then (l, { added with dropped := added.dropped + 1 })
  else
    let id := max l.nextId 1
    let hypothesis : Hypothesis :=
      { id, explanation := text, status := .proposed, hunks := [], rejection := none }
    ({ hypotheses := l.hypotheses ++ [hypothesis], nextId := id + 1 },
      { added with ids := added.ids ++ [id] })

/-- Registers explanations in order. -/
def add (l : Ledger) (explanations : List String) : Except LedgerError (Ledger × Added) :=
  if explanations.isEmpty then .error .emptyProposal
  else .ok (explanations.foldl addOne (l, ⟨[], 0⟩))

/-- The hypothesis that is being worked on. -/
def active? (l : Ledger) : Option Hypothesis :=
  l.hypotheses.find? (·.status.isActive)

/-- The hypothesis of an identifier. -/
def get? (l : Ledger) (id : Nat) : Option Hypothesis :=
  l.hypotheses.find? (·.id = id)

/-- The first accepted hypothesis. -/
def accepted? (l : Ledger) : Option Hypothesis :=
  l.hypotheses.find? (·.status = .accepted)

/-- The list with its first hypothesis that satisfies `p` changed. -/
def updateFirst (p : Hypothesis → Bool) (f : Hypothesis → Hypothesis) :
    List Hypothesis → List Hypothesis
  | [] => []
  | h :: rest => if p h then f h :: rest else h :: updateFirst p f rest

/-- Selects the first proposed hypothesis; none if there is none left. -/
def selectNext (l : Ledger) : Except LedgerError (Option (Hypothesis × Ledger)) :=
  match l.active? with
  | some h => .error (.active h.id)
  | none =>
    let isProposed (h : Hypothesis) : Bool := h.status = .proposed
    let select (h : Hypothesis) : Hypothesis := { h with status := .selected }
    match l.hypotheses.find? isProposed with
    | none => .ok none
    | some h =>
      .ok (some (select h, { l with hypotheses := updateFirst isProposed select l.hypotheses }))

/-- Moves a hypothesis to `target` if its status allows it, and changes it by `f`. -/
def move (l : Ledger) (id : Nat) (target : Status) (allowed : Status → Bool)
    (f : Hypothesis → Hypothesis) : Except LedgerError Ledger :=
  match l.get? id with
  | none => .error (.unknown id)
  | some h =>
    if allowed h.status then
      let change (h : Hypothesis) : Hypothesis := { f h with status := target }
      .ok { l with hypotheses := updateFirst (·.id = id) change l.hypotheses }
    else .error (.badMove id h.status target)

/-- Notes the hunks that were applied for the selected hypothesis. -/
def attempt (l : Ledger) (id : Nat) (hunks : List Hunk) : Except LedgerError Ledger :=
  l.move id .patchAttempted (· = .selected) fun h => { h with hunks }

/-- Turns down the hypothesis that is being worked on. -/
def reject (l : Ledger) (id : Nat) (reason : String) : Except LedgerError Ledger :=
  l.move id .rejected Status.isActive fun h => { h with rejection := some reason }

/-- Accepts the hypothesis that is being worked on. -/
def accept (l : Ledger) (id : Nat) : Except LedgerError Ledger :=
  l.move id .accepted Status.isActive fun h => h

/-- Whether there are hypotheses and all are rejected. -/
def isExhausted (l : Ledger) : Bool :=
  !l.hypotheses.isEmpty && l.hypotheses.all (·.status = .rejected)

/-- Explanation and reason of each rejected hypothesis. -/
def rejections (l : Ledger) : List String :=
  l.hypotheses.filterMap fun h => h.rejection.map fun reason => h.explanation ++ ": " ++ reason

end Ledger

end TextRepair
