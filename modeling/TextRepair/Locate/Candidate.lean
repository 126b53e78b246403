import TextRepair.Score
import TextRepair.Strategy

/-!
# Candidates

A search scores windows of consecutive lines. `best?` picks one of them and counts its rivals; what a
search reports is a `Scan`, a candidate together with the raw score that the acceptance rule looks at.
-/

namespace TextRepair

/-- A located span of lines, from `start` up to but not including `stop`. -/
structure Candidate (S : Type) where
  start : Nat
  stop : Nat
  /-- The reported confidence, between 0 and 1; 1 only for a unique verbatim match. -/
  confidence : S
  strategy : Strategy
  /-- The number of other spans with the same score that do not overlap this one. -/
  alternatives : Nat
  deriving Repr

namespace Candidate

/-- The number of lines. -/
def size {S : Type} (c : Candidate S) : Nat :=
  c.stop - c.start

/-- Whether the span has no lines. -/
def isEmpty {S : Type} (c : Candidate S) : Bool :=
  c.start == c.stop

/-- Whether another span is as good. -/
def isAmbiguous {S : Type} (c : Candidate S) : Bool :=
  0 < c.alternatives

end Candidate

/-- The best span of a search and its raw score. -/
structure Scan (S : Type) where
  candidate : Candidate S
  score : S
  deriving Repr

/-- A scored window of `size` lines from `start`. -/
structure Window (S : Type) where
  start : Nat
  size : Nat
  score : S
  deriving Repr

namespace Window

variable {S : Type}

/-- One past the last line. -/
def stop (w : Window S) : Nat :=
  w.start + w.size

/-- The distance of two numbers. -/
def gap (a b : Nat) : Nat :=
  max a b - min a b

/-- The distance of a window's start from the hint, 0 without a hint. -/
def hintGap (hint : Option Nat) (w : Window S) : Nat :=
  match hint with
  | none => 0
  | some h => gap w.start h

/-- Whether `v` comes strictly before `w` among windows of one score: by distance from the hint, then
by difference in length from the anchor, then by start. -/
def precedes (anchorSize : Nat) (hint : Option Nat) (v w : Window S) : Bool :=
  let near := compare (v.hintGap hint) (w.hintGap hint)
  let long := compare (gap v.size anchorSize) (gap w.size anchorSize)
  ((near.then long).then (compare v.start w.start)).isLT

/-- Whether two windows have no line in common. -/
def apart (v w : Window S) : Bool :=
  v.stop ≤ w.start || w.stop ≤ v.start

/-- The first of the windows that no other one precedes. -/
def first? (anchorSize : Nat) (hint : Option Nat) : List (Window S) → Option (Window S)
  | [] => none
  | w :: ws => some (ws.foldl (fun b v => if precedes anchorSize hint v b then v else b) w)

variable [Score S]

/-- The highest score of the windows. -/
def top? : List (Window S) → Option S
  | [] => none
  | w :: ws => some (ws.foldl (fun best v => Score.greatest best v.score) w.score)

/-- The window that is best by score, up to the tolerance, and comes first among those, with the
number of its equally scored rivals elsewhere. -/
def best? (windows : List (Window S)) (anchorSize : Nat) (hint : Option Nat) :
    Option (Window S × Nat) :=
  match top? windows with
  | none => none
  | some top =>
    let ties := windows.filter fun w => Score.near w.score top
    (first? anchorSize hint ties).map fun best => (best, (ties.filter (apart best)).length)

end Window

variable {S : Type} [Score S]

/-- The confidence reported for a raw score: at most `cap`, and lowered if there are rivals. -/
def confidenceOf (raw cap : S) (alternatives : Nat) : S :=
  let capped := Score.clamp (Score.least raw cap)
  if 0 < alternatives then capped * Score.ambiguityFactor else capped

/-- What a search reports for its windows. -/
def Window.report? (windows : List (Window S)) (anchorSize : Nat) (hint : Option Nat)
    (strategy : Strategy) (cap : S) : Option (Scan S) :=
  (Window.best? windows anchorSize hint).map fun (best, alternatives) =>
    { candidate :=
        { start := best.start, stop := best.stop
          confidence := confidenceOf best.score cap alternatives
          strategy, alternatives }
      score := best.score }

end TextRepair
