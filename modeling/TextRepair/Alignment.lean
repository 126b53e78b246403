/-!
# Common subsequences

`alignment a b` pairs up equal elements of two lists in order, as many as possible. It fills a table
with the lengths of the longest common subsequences of all starts of the lists and walks back from
the end; where both ways lead to an equally long one it gives up an element of the first list.
-/

namespace TextRepair

variable {α : Type} [DecidableEq α]

/-- The rest of a row of the table for the element `x`: `corner` and `left` are the entries above
left and to the left of the first one. -/
def commonRowFrom (x : α) (corner left : Nat) : List α → List Nat → List Nat
  | y :: ys, up :: above =>
    let entry := if x = y then corner + 1 else max left up
    entry :: commonRowFrom x up entry ys above
  | _, _ => []

/-- The row below `row` for the element `x`. -/
def nextCommonRow (x : α) (ys : List α) : List Nat → List Nat
  | [] => []
  | corner :: above => 0 :: commonRowFrom x corner 0 ys above

/-- The rows of the table below `row`, one for each element of the first list. -/
def commonRows (ys : List α) (row : List Nat) : List α → List (List Nat)
  | [] => [row]
  | x :: xs => row :: commonRows ys (nextCommonRow x ys row) xs

/-- The walk back through the table `entry` from the first `i` and `j` elements. The reversed starts
`xs` and `ys` hold the elements still to be paired; pairs come out last first. -/
def walkBack (entry : Nat → Nat → Nat) : List α → List α → List (Nat × Nat)
  | x :: xs, y :: ys =>
    let i := xs.length
    let j := ys.length
    if x = y then (i, j) :: walkBack entry xs ys
    else if entry i (j + 1) < entry (i + 1) j then walkBack entry (x :: xs) ys
    else walkBack entry xs (y :: ys)
  | _, _ => []
  termination_by xs ys => xs.length + ys.length

/-- Pairs of indices of equal elements, increasing in both components, as many as possible. -/
def alignment (a b : List α) : List (Nat × Nat) :=
  let table := ((commonRows b (List.replicate (b.length + 1) 0) a).map List.toArray).toArray
  let entry i j := ((table[i]?).bind (·[j]?)).getD 0
  (walkBack entry a.reverse b.reverse).reverse

end TextRepair
