import TextRepair.Score

/-!
# Edit distance and similarity

* `editDistance?` : the least number of single-element insertions, deletions and substitutions that
  turn one list into another, given up as soon as it must exceed a bound. It fills the table of
  distances between starts of the lists row by row and keeps two rows: each row is written over the
  one before the last, and then the two change places.
* `similarityAtLeast` : one minus the distance over the greater length, if it reaches a floor.
-/

namespace TextRepair

section Distance

variable {α : Type} [DecidableEq α]

/-- The rest of a row of the table for the element `x`: `corner` and `left` are the entries above
left and to the left of the first one, `above` the entries over the row. It is written over `spare`,
and what is not written over stays. -/
def rowFrom (x : α) (corner left : Nat) : List α → List Nat → List Nat → List Nat
  | y :: ys, up :: above, _ :: spare =>
    let entry := min (min (corner + if x = y then 0 else 1) (up + 1)) (left + 1)
    entry :: rowFrom x up entry ys above spare
  | _, _, spare => spare

/-- The row below `row` for the element `x`, whose entries belong to the starts of `ys`, written over
`spare`. -/
def nextRow (x : α) (ys : List α) (row spare : List Nat) : List Nat :=
  match row, spare with
  | corner :: above, _ :: spare => (corner + 1) :: rowFrom x corner (corner + 1) ys above spare
  | _, spare => spare

/-- The smallest of a list of numbers, `top` if there is none below it. -/
def leastOf (top : Nat) (ns : List Nat) : Nat :=
  ns.foldl min top

/-- The row after all elements of `xs`, none once a row has no entry within `bound`. The rows are
written over `spare` and `row` by turns. -/
def lastRow? (bound : Nat) (ys : List α) (row spare : List Nat) : List α → Option (List Nat)
  | [] => some row
  | x :: xs =>
    let next := nextRow x ys row spare
    if bound < leastOf (next.headD 0) next then none else lastRow? bound ys next row xs

/-- The edit distance of two lists, if it is at most `bound`. -/
def editDistance? (xs ys : List α) (bound : Nat) : Option Nat :=
  if bound < max xs.length ys.length - min xs.length ys.length then none
  else if xs.isEmpty then some ys.length
  else if ys.isEmpty then some xs.length
  else
    match lastRow? bound ys (List.range (ys.length + 1)) (List.replicate (ys.length + 1) 0) xs with
    | none => none
    | some row => (row.getLast?).filter (· ≤ bound)

end Distance

variable {S : Type} [Score S]

/-- The similarity of two texts, one minus their edit distance over the greater length, if it
reaches `floor`. Two empty texts are alike, whatever the floor. -/
def similarityAtLeast (xs ys : List Char) (floor : S) : Option S :=
  let longest := max xs.length ys.length
  if longest = 0 then some (Score.ofNat 1)
  else
    let floor := Score.clamp floor
    let bound :=
      Score.floor ((Score.ofNat 1 - floor) * Score.ofNat longest + Score.tolerance)
    match editDistance? xs ys bound with
    | none => none
    | some distance =>
      let score := Score.ofNat 1 - Score.ofNat distance / Score.ofNat longest
      if Score.reaches score floor then some score else none

/-- The similarity of two texts. -/
def similarity (xs ys : List Char) : S :=
  (similarityAtLeast xs ys (Score.ofNat 0)).getD (Score.ofNat 0)

end TextRepair
