import TextRepair.Proofs.Distance

/-!
# Checked steps

Lists are read and written under a check, a difference must not be negative, and a failed check is a `Fault`.
In such steps, with the rows of the table filled by index, the edit distance and the similarity come out as
before (`Checked.editDistance?_eq`, `Checked.similarityAtLeast_eq`): no check fails, whatever the two texts.
-/

namespace TextRepair

namespace Checked

/-- What a checked step can fail with. -/
inductive Fault where
  /-- A part or an entry that a list does not have. -/
  | outside
  /-- A difference below zero. -/
  | negative
  deriving DecidableEq, Repr

variable {α : Type}

/-- The entries of `xs` from `start` up to but not including `stop`. -/
def part (xs : List α) (start stop : Nat) : Except Fault (List α) :=
  if start ≤ stop ∧ stop ≤ xs.length then pure ((xs.drop start).take (stop - start))
  else throw .outside

/-- The entry of `xs` at `i`. -/
def entry (xs : List α) (i : Nat) : Except Fault α :=
  match xs[i]? with
  | some x => pure x
  | none => throw .outside

/-- The list with another entry at `i`. -/
def store (xs : List α) (i : Nat) (x : α) : Except Fault (List α) :=
  if i < xs.length then pure (xs.set i x) else throw .outside

/-- The difference of two numbers. -/
def minus (a b : Nat) : Except Fault Nat :=
  if b ≤ a then pure (a - b) else throw .negative

theorem entry_eq {xs : List α} {i : Nat} (h : i < xs.length) : entry xs i = pure xs[i] := by
  rw [entry, List.getElem?_eq_getElem h]

theorem entry_append (xs : List α) (x : α) (ys : List α) {i : Nat} (hi : i = xs.length) :
    entry (xs ++ x :: ys) i = pure x := by
  subst hi
  rw [entry, List.getElem?_append_right le_rfl, Nat.sub_self, List.getElem?_cons_zero]

theorem store_append (xs : List α) (x : α) (ys : List α) {i : Nat} (hi : i = xs.length) (y : α) :
    store (xs ++ x :: ys) i y = pure (xs ++ y :: ys) := by
  subst hi
  rw [store, if_pos (by simp), List.set_append_right _ _ le_rfl, Nat.sub_self, List.set_cons_zero]

theorem minus_eq {a b : Nat} (h : b ≤ a) : minus a b = pure (a - b) :=
  if_pos h

/-! ### The edit distance -/

section Distance

variable [DecidableEq α]

/-- Fills entry `j` of the row for the element `x`, and keeps the least entry of the row. -/
def cell (x : α) (ys : List α) (above : List Nat) (state : List Nat × Nat) (j : Nat) :
    Except Fault (List Nat × Nat) := do
  let (row, least) := state
  let y ← entry ys (← minus j 1)
  let corner ← entry above (← minus j 1)
  let up ← entry above j
  let left ← entry row (← minus j 1)
  let value := min (min (corner + if x = y then 0 else 1) (up + 1)) (left + 1)
  pure (← store row j value, min least value)

/-- The row after all elements of `xs` with a number in `is`; the two rows change places after each of
them. -/
def rows (bound : Nat) (xs ys : List α) (above row : List Nat) : List Nat → Except Fault (Option (List Nat))
  | [] => pure (some above)
  | i :: is => do
    let x ← entry xs (← minus i 1)
    let first ← store row 0 i
    let (row, least) ← (List.range' 1 ys.length).foldlM (cell x ys above) (first, i)
    if bound < least then pure none else rows bound xs ys row above is

/-- The edit distance of two lists, if it is at most `bound`. -/
def editDistance? (xs ys : List α) (bound : Nat) : Except Fault (Option Nat) :=
  if bound < max xs.length ys.length - min xs.length ys.length then pure none
  else if xs.length = 0 then pure (some ys.length)
  else if ys.length = 0 then pure (some xs.length)
  else do
    match ← rows bound xs ys (List.range (ys.length + 1)) (List.replicate (ys.length + 1) 0)
      (List.range' 1 xs.length) with
    | none => pure none
    | some row =>
      let distance ← entry row ys.length
      pure (if distance ≤ bound then some distance else none)

theorem leastOf_cons (top n : Nat) (ns : List Nat) : leastOf top (n :: ns) = leastOf (min top n) ns :=
  rfl

theorem foldlM_cell (x : α) (ys : List α) {above spare : List Nat} (habove : above.length = ys.length)
    (hspare : spare.length = ys.length) (corner left least : Nat) (ysDone : List α) (aboveDone rowDone : List Nat)
    (hdone : aboveDone.length = ysDone.length) (hrow : rowDone.length = ysDone.length) :
    (List.range' (ysDone.length + 1) ys.length).foldlM (cell x (ysDone ++ ys) (aboveDone ++ corner :: above))
        (rowDone ++ left :: spare, least) =
      pure (rowDone ++ left :: rowFrom x corner left ys above spare,
        leastOf least (rowFrom x corner left ys above spare)) := by
  induction ys generalizing above spare corner left least ysDone aboveDone rowDone with
  | nil =>
    obtain rfl := List.length_eq_zero_iff.mp hspare
    rfl
  | cons y ys ih =>
    obtain ⟨up, above, rfl⟩ := List.exists_cons_of_length_eq_add_one habove
    obtain ⟨old, spare, rfl⟩ := List.exists_cons_of_length_eq_add_one hspare
    have habove : above.length = ys.length := Nat.succ.inj habove
    have hspare : spare.length = ys.length := Nat.succ.inj hspare
    rw [List.length_cons, List.range'_succ, List.foldlM_cons, rowFrom]
    simp only [leastOf_cons]
    generalize hvalue : min (min (corner + if x = y then 0 else 1) (up + 1)) (left + 1) = value
    have hstep : cell x (ysDone ++ y :: ys) (aboveDone ++ corner :: up :: above)
        (rowDone ++ left :: old :: spare, least) (ysDone.length + 1)
          = pure ((rowDone ++ [left]) ++ value :: spare, min least value) := by
      have hup := entry_append (aboveDone ++ [corner]) up above (i := ysDone.length + 1) (by simp [hdone])
      have hstore := store_append (rowDone ++ [left]) old spare (i := ysDone.length + 1) (by simp [hrow]) value
      rw [List.append_assoc, List.singleton_append] at hup hstore
      simp only [cell, minus_eq (Nat.le_add_left 1 _), pure_bind, Nat.add_sub_cancel, entry_append _ _ _ rfl,
        entry_append _ _ _ hdone.symm, entry_append _ _ _ hrow.symm, hup, hvalue, hstore]
    rw [hstep, pure_bind]
    have hrest := ih habove hspare up value (min least value) (ysDone ++ [y]) (aboveDone ++ [corner])
      (rowDone ++ [left]) (by simp [hdone]) (by simp [hrow])
    simpa only [List.length_append, List.length_singleton, List.append_assoc, List.singleton_append] using hrest

theorem length_rowFrom (x : α) (ys : List α) {above spare : List Nat} (habove : above.length = ys.length)
    (hspare : spare.length = ys.length) (corner left : Nat) :
    (rowFrom x corner left ys above spare).length = ys.length := by
  induction ys generalizing above spare corner left with
  | nil => exact hspare
  | cons y ys ih =>
    obtain ⟨up, above, rfl⟩ := List.exists_cons_of_length_eq_add_one habove
    obtain ⟨old, spare, rfl⟩ := List.exists_cons_of_length_eq_add_one hspare
    rw [rowFrom, List.length_cons, ih (Nat.succ.inj habove) (Nat.succ.inj hspare), List.length_cons]

theorem rows_eq (bound : Nat) (ys xs xsDone : List α) {above row : List Nat}
    (habove : above.length = ys.length) (hrow : row.length = ys.length + 1) :
    rows bound (xsDone ++ xs) ys (xsDone.length :: above) row (List.range' (xsDone.length + 1) xs.length)
      = pure (lastRow? bound ys (xsDone.length :: above) row xs) := by
  induction xs generalizing xsDone above row with
  | nil => rfl
  | cons x xs ih =>
    obtain ⟨old, spare, rfl⟩ := List.exists_cons_of_length_eq_add_one hrow
    have hspare : spare.length = ys.length := Nat.succ.inj hrow
    have hcells := foldlM_cell x ys habove hspare xsDone.length (xsDone.length + 1) (xsDone.length + 1)
      [] [] [] rfl rfl
    have hleast (ns : List Nat) : leastOf (xsDone.length + 1) ns
        = leastOf (((xsDone.length + 1) :: ns).headD 0) ((xsDone.length + 1) :: ns) := by
      rw [List.headD_cons, leastOf_cons, Nat.min_self]
    have habove' : (xsDone.length :: above).length = ys.length + 1 := congrArg Nat.succ habove
    have hrest := ih (xsDone ++ [x]) (length_rowFrom x ys habove hspare xsDone.length (xsDone.length + 1)) habove'
    rw [List.length_append, List.length_singleton, List.append_assoc, List.singleton_append] at hrest
    simp only [List.nil_append, List.length_nil, Nat.zero_add] at hcells
    have hfirst : store (old :: spare) 0 (xsDone.length + 1) = pure ((xsDone.length + 1) :: spare) :=
      store_append [] old spare rfl _
    rw [List.length_cons, List.range'_succ, rows, minus_eq (Nat.le_add_left 1 _), pure_bind, Nat.add_sub_cancel,
      entry_append _ _ _ rfl, pure_bind, hfirst, pure_bind, hcells, pure_bind, lastRow?, nextRow]
    simp only [← hleast, hrest]
    split_ifs <;> rfl

theorem editDistance?_eq (xs ys : List α) (bound : Nat) :
    editDistance? xs ys bound = pure (TextRepair.editDistance? xs ys bound) := by
  have hrows : rows bound xs ys (List.range (ys.length + 1)) (List.replicate (ys.length + 1) 0)
      (List.range' 1 xs.length)
        = pure (lastRow? bound ys (List.range (ys.length + 1)) (List.replicate (ys.length + 1) 0) xs) := by
    rw [List.range_succ_eq_map]
    exact rows_eq bound ys xs [] (by simp) (by simp)
  rw [editDistance?, TextRepair.editDistance?, hrows]
  simp only [List.isEmpty_iff_length_eq_zero, pure_bind]
  split_ifs
  · rfl
  · rfl
  · rfl
  -- the last row has one entry more than `ys`, so the last entry is the one that is read
  · rcases lastRow?_range bound xs ys (List.length_replicate (a := 0)) with hrow | ⟨hrow, -⟩
    · rw [hrow]
      have hlength : ys.length < (rowOf (distance xs.reverse) ys).length := by
        rw [length_rowOf]
        exact Nat.lt_succ_self _
      simp only [entry_eq hlength, pure_bind, List.getLast?_eq_getElem?, length_rowOf, Nat.add_sub_cancel,
        List.getElem?_eq_getElem hlength, Option.filter_some, decide_eq_true_eq]
    · rw [hrow]

end Distance

variable {S : Type} [Score S]

/-- The similarity of two texts, if it reaches `floor`. -/
def similarityAtLeast (xs ys : List Char) (floor : S) : Except Fault (Option S) :=
  let longest := max xs.length ys.length
  if longest = 0 then pure (some (Score.ofNat 1))
  else do
    let floor := Score.clamp floor
    let bound :=
      Score.floor ((Score.ofNat 1 - floor) * Score.ofNat longest + Score.tolerance)
    match ← editDistance? xs ys bound with
    | none => pure none
    | some distance =>
      let score := Score.ofNat 1 - Score.ofNat distance / Score.ofNat longest
      pure (if Score.reaches score floor then some score else none)

theorem similarityAtLeast_eq (xs ys : List Char) (floor : S) :
    similarityAtLeast xs ys floor = pure (TextRepair.similarityAtLeast xs ys floor) := by
  unfold similarityAtLeast TextRepair.similarityAtLeast
  simp only [editDistance?_eq, pure_bind]
  split_ifs
  · rfl
  · cases TextRepair.editDistance? xs ys _ <;> rfl

end Checked

end TextRepair
