import TextRepair.Decimal.Notation
import TextRepair.Document
import TextRepair.Locate.Candidate

/-!
# Reports

What an application says about each hunk, and its result as a whole.
-/

namespace TextRepair

/-- The best that one strategy reached for a hunk; none if it found no span at all. -/
structure Attempt (S : Type) where
  strategy : Strategy
  confidence : Option S
  deriving Repr

/-- Why a hunk has no place: no strategy was content with its best span. -/
structure NoMatch (S : Type) where
  strategy : Option Strategy
  confidence : Option S
  deriving Repr

/-- The report on one hunk. -/
structure HunkReport (S : Type) where
  index : Nat
  matched : Bool
  candidate : Option (Candidate S)
  strategy : Option Strategy
  confidence : Option S
  /-- Chosen among equally good spans. -/
  ambiguous : Bool
  attempts : List (Attempt S)
  failure : Option (NoMatch S)
  deriving Repr

namespace HunkReport

variable {S : Type}

/-- The report on a hunk that has found its place. -/
def placed (index : Nat) (candidate : Candidate S) (attempts : List (Attempt S)) : HunkReport S where
  index
  matched := true
  candidate := some candidate
  strategy := some candidate.strategy
  confidence := some candidate.confidence
  ambiguous := candidate.isAmbiguous
  attempts
  failure := none

/-- The better of the best attempt so far and the next one; the earlier one keeps a tie. -/
def better [Score S] (best : Option (Strategy × S)) (attempt : Attempt S) : Option (Strategy × S) :=
  match attempt.confidence, best with
  | none, _ => best
  | some c, none => some (attempt.strategy, c)
  | some c, some (_, top) => if Score.le c top then best else some (attempt.strategy, c)

/-- The report on a hunk without a place. -/
def unplaced [Score S] (index : Nat) (attempts : List (Attempt S)) : HunkReport S :=
  let best := attempts.foldl better none
  { index
    matched := false
    candidate := none
    strategy := none
    confidence := none
    ambiguous := false
    attempts
    failure := some { strategy := best.map Prod.fst, confidence := best.map Prod.snd } }

/-- One line about a hunk. Lines count from 1, and confidences have two places. -/
def describe (r : HunkReport Float) : String :=
  match r.candidate, r.failure with
  | some c, _ =>
    let rivals := if r.ambiguous then ", ambiguous" else ""
    s!"hunk {r.index}: {c.strategy.name} at lines {c.start + 1}..{c.stop} " ++
      s!"(confidence {Decimal.fixed 2 c.confidence}{rivals})"
  | none, some { strategy := some s, confidence := some c } =>
    s!"hunk {r.index}: no match (best {s.name} at {Decimal.fixed 2 c})"
  | none, some _ => s!"hunk {r.index}: no match"
  | none, none => s!"hunk {r.index}: not applied"

end HunkReport

/-- The result of applying an edit: the new document if every hunk has found its place, the old one
otherwise. -/
structure Outcome (S : Type) where
  reports : List (HunkReport S)
  document : Document
  success : Bool
  deriving Repr

namespace Outcome

variable {S : Type}

/-- The reports on hunks without a place. -/
def failures (o : Outcome S) : List (HunkReport S) :=
  o.reports.filter fun r => !r.matched

/-- The first of them. -/
def firstFailure? (o : Outcome S) : Option (HunkReport S) :=
  o.reports.find? fun r => !r.matched

end Outcome

/-- The result of applying an edit to a text. -/
structure TextOutcome (S : Type) where
  text : String
  success : Bool
  reports : List (HunkReport S)
  deriving Repr

/-- The result with the document as a text. -/
def Outcome.toText {S : Type} (o : Outcome S) : TextOutcome S where
  text := o.document.toText
  success := o.success
  reports := o.reports

end TextRepair
