import Mathlib.Data.List.Infix

/-!
# Rows of a table over starts

A table for two lists has a row for each start of the first list, and in the row an entry for each start
of the second one. Rows are filled from the front, so what the entries are values of are reversed starts
(`rowOf`). An entry is reached by the elements of the second list that are still to come and by those
that have been passed (`entriesFrom`), and a row as a whole has one entry for each start (`rowOf_eq`).
-/

namespace TextRepair

variable {α : Type}

/-- The values of `f` at the starts of `ys` but the empty one, each reversed and put before `q`. -/
def entriesFrom (f : List α → Nat) (q : List α) : List α → List Nat
  | [] => []
  | y :: ys => f (y :: q) :: entriesFrom f (y :: q) ys

/-- The values of `f` at the reversed starts of `ys`. -/
def rowOf (f : List α → Nat) (ys : List α) : List Nat :=
  f [] :: entriesFrom f [] ys

theorem cons_entriesFrom (f : List α → Nat) (q ys : List α) :
    f q :: entriesFrom f q ys = ys.inits.map fun t => f (t.reverse ++ q) := by
  induction ys generalizing q with
  | nil => rfl
  | cons y ys ih =>
    rw [entriesFrom, ih, List.inits_cons, List.map_cons, List.map_map]
    congr 1
    apply List.map_congr_left
    intro t _
    show f (t.reverse ++ y :: q) = f ((y :: t).reverse ++ q)
    rw [List.reverse_cons, List.append_assoc, List.singleton_append]

theorem rowOf_eq (f : List α → Nat) (ys : List α) : rowOf f ys = ys.inits.map fun t => f t.reverse := by
  rw [rowOf, cons_entriesFrom]
  simp only [List.append_nil]

theorem length_entriesFrom (f : List α → Nat) (q ys : List α) :
    (entriesFrom f q ys).length = ys.length := by
  induction ys generalizing q with
  | nil => rfl
  | cons y ys ih => rw [entriesFrom, List.length_cons, ih, List.length_cons]

@[simp] theorem length_rowOf (f : List α → Nat) (ys : List α) : (rowOf f ys).length = ys.length + 1 := by
  rw [rowOf, List.length_cons, length_entriesFrom]

theorem getElem?_rowOf (f : List α → Nat) {ys : List α} {j : Nat} (hj : j ≤ ys.length) :
    (rowOf f ys)[j]? = some (f (ys.take j).reverse) := by
  have hlt : j < ys.inits.length := by
    rw [List.length_inits]
    omega
  rw [rowOf_eq, List.getElem?_map, List.getElem?_eq_getElem hlt, List.getElem_inits, Option.map_some]

theorem getLast?_rowOf (f : List α → Nat) (ys : List α) : (rowOf f ys).getLast? = some (f ys.reverse) := by
  rw [List.getLast?_eq_getElem?, length_rowOf, Nat.add_sub_cancel, getElem?_rowOf f (Nat.le_refl _),
    List.take_length]

end TextRepair
