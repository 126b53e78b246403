import TextRepair.Distance
import TextRepair.Proofs.Rows
import Mathlib.Order.MinMax
import Mathlib.Order.Lattice.Nat

/-!
# The bounded edit distance is exact

`editDistance xs ys` is the least number of insertions, deletions and substitutions of single elements
that turn `xs` into `ys`. The row algorithm finds this number where it is within the bound and nothing
otherwise (`editDistance?_eq`), so neither the test of the lengths nor the early end at a row without an
entry within the bound loses anything. Main statement, `bounded_editDistance_exact`: besides, whatever
the row holds over which the first row is written, the last row has the distances to all starts of the
second list, so no entry that was there before is ever read.

The distance satisfies the usual recursion on the first elements (`distance`). The algorithm reads both
lists from the front, so its rows hold distances between reversed starts (`rowOf (distance p) ys`), and
an edit of two lists is an edit of the reversed ones. If all entries of a row are beyond the bound, so are
those of the next row (`allBeyond_cons`), which is why such a row decides.
-/

namespace TextRepair

variable {α : Type}

/-- One edit: an element is inserted, deleted or substituted. -/
inductive OneEdit : List α → List α → Prop
  | insert (front : List α) (x : α) (back : List α) : OneEdit (front ++ back) (front ++ x :: back)
  | delete (front : List α) (x : α) (back : List α) : OneEdit (front ++ x :: back) (front ++ back)
  | substitute (front : List α) (x y : α) (back : List α) :
      OneEdit (front ++ x :: back) (front ++ y :: back)

/-- `Edits k xs ys` : `k` edits, one after the other, turn `xs` into `ys`. -/
inductive Edits : Nat → List α → List α → Prop
  | refl (xs : List α) : Edits 0 xs xs
  | step {k : Nat} {xs ys zs : List α} (hedit : OneEdit xs ys) (hedits : Edits k ys zs) :
      Edits (k + 1) xs zs

/-- The least number of edits that turn one list into another. -/
noncomputable def editDistance (xs ys : List α) : Nat :=
  sInf {k | Edits k xs ys}

/-! ### Edits -/

theorem OneEdit.cons (z : α) {xs ys : List α} (hedit : OneEdit xs ys) :
    OneEdit (z :: xs) (z :: ys) := by
  cases hedit with
  | insert front x back => exact .insert (z :: front) x back
  | delete front x back => exact .delete (z :: front) x back
  | substitute front x y back => exact .substitute (z :: front) x y back

theorem Edits.cons (z : α) {k : Nat} {xs ys : List α} (hedits : Edits k xs ys) :
    Edits k (z :: xs) (z :: ys) := by
  induction hedits with
  | refl xs => exact .refl _
  | step hedit _ ih => exact .step (hedit.cons z) ih

theorem OneEdit.reverse {xs ys : List α} (hedit : OneEdit xs ys) :
    OneEdit xs.reverse ys.reverse := by
  cases hedit with
  | insert front x back => simpa using OneEdit.insert back.reverse x front.reverse
  | delete front x back => simpa using OneEdit.delete back.reverse x front.reverse
  | substitute front x y back => simpa using OneEdit.substitute back.reverse x y front.reverse

theorem Edits.reverse {k : Nat} {xs ys : List α} (hedits : Edits k xs ys) :
    Edits k xs.reverse ys.reverse := by
  induction hedits with
  | refl xs => exact .refl _
  | step hedit _ ih => exact .step hedit.reverse ih

theorem editDistance_reverse (xs ys : List α) :
    editDistance xs.reverse ys.reverse = editDistance xs ys := by
  have hiff : ∀ k, Edits k xs.reverse ys.reverse ↔ Edits k xs ys :=
    fun k => ⟨fun h => by simpa using h.reverse, Edits.reverse⟩
  rw [editDistance, editDistance]
  exact congrArg sInf (Set.ext hiff)

theorem length_le_of_edits {k : Nat} {xs ys : List α} (hedits : Edits k xs ys) :
    xs.length ≤ ys.length + k ∧ ys.length ≤ xs.length + k := by
  induction hedits with
  | refl xs => simp
  | step hedit _ ih => cases hedit <;> simp only [List.length_append, List.length_cons] at ih ⊢ <;> omega

theorem edits_nil_left (ys : List α) : Edits ys.length [] ys := by
  induction ys with
  | nil => exact .refl _
  | cons y ys ih => exact .step (.insert [] y []) (ih.cons y)

theorem edits_nil_right (xs : List α) : Edits xs.length xs [] := by
  induction xs with
  | nil => exact .refl _
  | cons x xs ih => exact .step (.delete [] x xs) ih

/-! ### The recursion -/

variable [DecidableEq α]

/-- The distance by recursion on the first elements. -/
def distance : List α → List α → Nat
  | [], ys => ys.length
  | x :: xs, [] => (x :: xs).length
  | x :: xs, y :: ys =>
    min (min (distance xs ys + if x = y then 0 else 1) (distance xs (y :: ys) + 1))
      (distance (x :: xs) ys + 1)
  termination_by xs ys => xs.length + ys.length

@[simp] theorem distance_nil_left (ys : List α) : distance [] ys = ys.length := by
  rw [distance]

@[simp] theorem distance_nil_right (xs : List α) : distance xs [] = xs.length := by
  cases xs with
  | nil => rw [distance]
  | cons x xs => rw [distance]

theorem distance_cons_cons (x y : α) (xs ys : List α) :
    distance (x :: xs) (y :: ys)
      = min (min (distance xs ys + if x = y then 0 else 1) (distance xs (y :: ys) + 1))
          (distance (x :: xs) ys + 1) := by
  rw [distance]

theorem edits_distance (xs ys : List α) : Edits (distance xs ys) xs ys := by
  fun_induction distance xs ys with
  | case1 ys => exact edits_nil_left ys
  | case2 x xs => exact edits_nil_right (x :: xs)
  | case3 x xs y ys ihboth ihleft ihright =>
    rcases min_choice (min (distance xs ys + if x = y then 0 else 1) (distance xs (y :: ys) + 1))
      (distance (x :: xs) ys + 1) with h | h <;> rw [h]
    · rcases min_choice (distance xs ys + if x = y then 0 else 1) (distance xs (y :: ys) + 1)
        with h' | h' <;> rw [h']
      · split_ifs with hxy
        · subst hxy
          exact ihboth.cons x
        · exact .step (.substitute [] x y xs) (ihboth.cons y)
      · exact .step (.delete [] x xs) ihleft
    · exact .step (.insert [] y (x :: xs)) (ihright.cons y)

theorem distance_cons_left_le (x : α) (xs ys : List α) :
    distance (x :: xs) ys ≤ distance xs ys + 1 := by
  cases ys with
  | nil => simp
  | cons y ys =>
    rw [distance_cons_cons]
    omega

theorem distance_cons_right_le (xs : List α) (y : α) (ys : List α) :
    distance xs (y :: ys) ≤ distance xs ys + 1 := by
  cases xs with
  | nil => simp
  | cons x xs =>
    rw [distance_cons_cons]
    omega

theorem distance_tail_le (x : α) (xs ys : List α) :
    distance xs ys ≤ distance (x :: xs) ys + 1 := by
  induction ys with
  | nil =>
    simp only [distance_nil_right, List.length_cons]
    omega
  | cons y ys ih =>
    have hright := distance_cons_right_le xs y ys
    rw [distance_cons_cons]
    omega

theorem distance_substitute_le (x y : α) (xs ys : List α) :
    distance (x :: xs) ys ≤ distance (y :: xs) ys + 1 := by
  induction ys with
  | nil => simp
  | cons z zs ih =>
    rw [distance_cons_cons, distance_cons_cons]
    split_ifs <;> omega

theorem distance_le_of_oneEdit {xs xs' : List α} (hedit : OneEdit xs xs') (ys : List α) :
    distance xs ys ≤ distance xs' ys + 1 := by
  -- equal first elements keep the bound: every way to treat them costs the same on both sides
  have hcons : ∀ (z : α) (as bs : List α), (∀ ys, distance as ys ≤ distance bs ys + 1) →
      ∀ ys, distance (z :: as) ys ≤ distance (z :: bs) ys + 1 := by
    intro z as bs h ys
    induction ys with
    | nil => simpa using h []
    | cons y ys ih =>
      have h1 := h ys
      have h2 := h (y :: ys)
      rw [distance_cons_cons, distance_cons_cons]
      omega
  have hfront : ∀ (front as bs : List α), (∀ ys, distance as ys ≤ distance bs ys + 1) →
      ∀ ys, distance (front ++ as) ys ≤ distance (front ++ bs) ys + 1 := by
    intro front as bs h
    induction front with
    | nil => exact h
    | cons z front ih => exact hcons z _ _ ih
  cases hedit with
  | insert front x back => exact hfront front _ _ (distance_tail_le x back) ys
  | delete front x back => exact hfront front _ _ (distance_cons_left_le x back) ys
  | substitute front x y back => exact hfront front _ _ (distance_substitute_le x y back) ys

theorem distance_le_of_edits {k : Nat} {xs ys : List α} (hedits : Edits k xs ys) :
    distance xs ys ≤ k := by
  induction hedits with
  | refl xs =>
    induction xs with
    | nil => simp
    | cons x xs ih =>
      rw [distance_cons_cons, if_pos rfl]
      omega
  | @step k xs ys zs hedit _ ih =>
    have := distance_le_of_oneEdit hedit zs
    omega

theorem isLeast_editDistance (xs ys : List α) : IsLeast {k | Edits k xs ys} (editDistance xs ys) :=
  ⟨Nat.sInf_mem ⟨_, edits_distance xs ys⟩, fun _ hk => Nat.sInf_le hk⟩

/-- The recursion gives the least number of edits. -/
theorem editDistance_eq_distance (xs ys : List α) : editDistance xs ys = distance xs ys := by
  obtain ⟨hreached, hleast⟩ := isLeast_editDistance xs ys
  exact le_antisymm (hleast (edits_distance xs ys)) (distance_le_of_edits hreached)

theorem distance_reverse (xs ys : List α) : distance xs.reverse ys.reverse = editDistance xs ys := by
  rw [← editDistance_eq_distance, editDistance_reverse]

theorem distance_le_max (xs ys : List α) : distance xs ys ≤ max xs.length ys.length := by
  fun_induction distance xs ys with
  | case1 ys => exact le_max_right _ _
  | case2 x xs => exact le_max_left _ _
  | case3 x xs y ys ihboth ihleft ihright =>
    have hstep : (if x = y then 0 else 1) ≤ 1 := by split_ifs <;> omega
    simp only [List.length_cons]
    omega

/-! ### Rows of the table -/

/-- An entry is never read from the row that is written over, whatever it holds. -/
theorem rowFrom_entriesFrom (x : α) (p q : List α) {ys : List α} {spare : List Nat}
    (hspare : spare.length = ys.length) :
    rowFrom x (distance p q) (distance (x :: p) q) ys (entriesFrom (distance p) q ys) spare
      = entriesFrom (distance (x :: p)) q ys := by
  induction ys generalizing q spare with
  | nil =>
    rw [List.length_eq_zero_iff.mp hspare]
    rfl
  | cons y ys ih =>
    obtain ⟨old, spare, rfl⟩ := List.exists_cons_of_length_eq_add_one hspare
    rw [List.length_cons, List.length_cons, Nat.add_right_cancel_iff] at hspare
    rw [entriesFrom, entriesFrom, rowFrom]
    simp only [← distance_cons_cons]
    rw [ih _ hspare]

theorem nextRow_rowOf (x : α) (p : List α) {ys : List α} {spare : List Nat}
    (hspare : spare.length = ys.length + 1) :
    nextRow x ys (rowOf (distance p) ys) spare = rowOf (distance (x :: p)) ys := by
  obtain ⟨old, spare, rfl⟩ := List.exists_cons_of_length_eq_add_one hspare
  rw [List.length_cons, Nat.add_right_cancel_iff] at hspare
  have hfirst : distance p [] + 1 = distance (x :: p) [] := by simp
  rw [rowOf, nextRow, hfirst, rowFrom_entriesFrom x p [] hspare, rowOf]

theorem rowOf_distance_nil (ys : List α) : rowOf (distance []) ys = List.range (ys.length + 1) := by
  apply List.ext_getElem?
  intro j
  by_cases hj : j ≤ ys.length
  · rw [getElem?_rowOf _ hj, List.getElem?_range (by omega), distance_nil_left, List.length_reverse,
      List.length_take_of_le hj]
  · rw [List.getElem?_eq_none (by rw [length_rowOf]; omega),
      List.getElem?_eq_none (by rw [List.length_range]; omega)]

/-! ### The early end -/

theorem lt_leastOf {bound top : Nat} {ns : List Nat} :
    bound < leastOf top ns ↔ bound < top ∧ ∀ n ∈ ns, bound < n := by
  induction ns generalizing top with
  | nil => simp [leastOf]
  | cons n ns ih =>
    have hstep : leastOf top (n :: ns) = leastOf (min top n) ns := rfl
    rw [hstep, ih, List.forall_mem_cons, Nat.lt_min, and_assoc]

/-- Whether all distances between `p` and the ends of `qs` are beyond `bound`. -/
def AllBeyond (bound : Nat) (p qs : List α) : Prop :=
  ∀ q, q <:+ qs → bound < distance p q

theorem allBeyond_cons {bound : Nat} {p qs : List α} (h : AllBeyond bound p qs) (x : α) :
    AllBeyond bound (x :: p) qs := by
  intro q hq
  induction q with
  | nil =>
    have := h [] hq
    simp only [distance_nil_right, List.length_cons] at this ⊢
    omega
  | cons y q ih =>
    have htail : q <:+ qs := (List.suffix_cons y q).trans hq
    have h1 := h q htail
    have h2 := h (y :: q) hq
    have h3 := ih htail
    rw [distance_cons_cons]
    omega

theorem AllBeyond.append {bound : Nat} {p qs : List α} (h : AllBeyond bound p qs) (xs : List α) :
    AllBeyond bound (xs.reverse ++ p) qs := by
  induction xs generalizing p with
  | nil => exact h
  | cons x xs ih =>
    rw [List.reverse_cons, List.append_assoc]
    exact ih (allBeyond_cons h x)

theorem allBeyond_of_row {bound : Nat} {p ys : List α}
    (h : ∀ n ∈ rowOf (distance p) ys, bound < n) : AllBeyond bound p ys.reverse := by
  intro q hq
  have hstart : q.reverse ∈ ys.inits := by
    rw [List.mem_inits, ← List.reverse_reverse ys]
    exact List.reverse_prefix.mpr hq
  apply h
  rw [rowOf_eq, List.mem_map]
  exact ⟨q.reverse, hstart, by rw [List.reverse_reverse]⟩

/-- The rows go on to the last one, or end early because the distance is beyond the bound. -/
theorem lastRow?_rowOf (bound : Nat) (ys p xs : List α) {spare : List Nat}
    (hspare : spare.length = ys.length + 1) :
    lastRow? bound ys (rowOf (distance p) ys) spare xs = some (rowOf (distance (xs.reverse ++ p)) ys) ∨
      lastRow? bound ys (rowOf (distance p) ys) spare xs = none ∧
        bound < distance (xs.reverse ++ p) ys.reverse := by
  induction xs generalizing p spare with
  | nil => exact Or.inl rfl
  | cons x xs ih =>
    simp only [lastRow?, nextRow_rowOf x p hspare]
    split_ifs with hleast
    · right
      have hbeyond := (allBeyond_of_row (lt_leastOf.mp hleast).2).append xs
      rw [List.reverse_cons, List.append_assoc]
      exact ⟨rfl, hbeyond _ List.suffix_rfl⟩
    · rw [List.reverse_cons, List.append_assoc]
      exact ih (x :: p) (length_rowOf _ ys)

theorem lastRow?_range (bound : Nat) (xs ys : List α) {spare : List Nat}
    (hspare : spare.length = ys.length + 1) :
    lastRow? bound ys (List.range (ys.length + 1)) spare xs = some (rowOf (distance xs.reverse) ys) ∨
      lastRow? bound ys (List.range (ys.length + 1)) spare xs = none ∧
        bound < editDistance xs ys := by
  have hrow := lastRow?_rowOf bound ys [] xs hspare
  rwa [rowOf_distance_nil, List.append_nil, distance_reverse] at hrow

/-! ### The bounded distance -/

theorem length_le_add_editDistance (xs ys : List α) :
    max xs.length ys.length - min xs.length ys.length ≤ editDistance xs ys := by
  have hlengths := length_le_of_edits (isLeast_editDistance xs ys).1
  omega

/-- The bounded distance is the least number of edits if that is within the bound, else none. -/
theorem editDistance?_eq (xs ys : List α) (bound : Nat) :
    editDistance? xs ys bound
      = if editDistance xs ys ≤ bound then some (editDistance xs ys) else none := by
  have hlengths := length_le_add_editDistance xs ys
  rw [editDistance?]
  by_cases hgap : bound < max xs.length ys.length - min xs.length ys.length
  · rw [if_pos hgap, if_neg (by omega)]
  rw [if_neg hgap]
  by_cases hxs : xs = []
  · subst hxs
    rw [editDistance_eq_distance, distance_nil_left]
    simp only [List.length_nil, List.isEmpty_nil, if_true] at hgap ⊢
    rw [if_pos (by omega)]
  rw [if_neg (by simpa using hxs)]
  by_cases hys : ys = []
  · subst hys
    rw [editDistance_eq_distance, distance_nil_right]
    simp only [List.length_nil, List.isEmpty_nil, if_true] at hgap ⊢
    rw [if_pos (by omega)]
  rw [if_neg (by simpa using hys)]
  rcases lastRow?_range bound xs ys (List.length_replicate (a := 0)) with hrow | ⟨hrow, hbeyond⟩
  · rw [hrow]
    simp only [getLast?_rowOf, distance_reverse, Option.filter_some, decide_eq_true_eq]
  · rw [hrow, if_neg (by omega)]

/-- The bounded distance is a number within the bound just in case this is the least number of edits, and
none just in case all edits are more than the bound allows. The test of the lengths and the early end
refuse only in the second case. Whatever the spare row holds, the last row has the distances to all
starts. -/
theorem bounded_editDistance_exact (xs ys : List α) (bound : Nat) :
    (∀ d, editDistance? xs ys bound = some d ↔ d ≤ bound ∧ IsLeast {k | Edits k xs ys} d) ∧
    (editDistance? xs ys bound = none ↔ ∀ k, Edits k xs ys → bound < k) ∧
    (bound < max xs.length ys.length - min xs.length ys.length → ∀ k, Edits k xs ys → bound < k) ∧
    ∀ spare : List Nat, spare.length = ys.length + 1 →
      (lastRow? bound ys (List.range (ys.length + 1)) spare xs = none ∧
        ∀ k, Edits k xs ys → bound < k) ∨
      lastRow? bound ys (List.range (ys.length + 1)) spare xs = some (ys.inits.map (editDistance xs)) := by
  have hleast := isLeast_editDistance xs ys
  have hbeyond : bound < editDistance xs ys ↔ ∀ k, Edits k xs ys → bound < k :=
    ⟨fun hlt k hk => hlt.trans_le (hleast.2 hk), fun h => h _ hleast.1⟩
  rw [editDistance?_eq]
  refine ⟨fun d => ?_, ?_, fun hgap => ?_, fun spare hspare => ?_⟩
  · constructor
    · intro hsome
      split_ifs at hsome with hwithin
      cases hsome
      exact ⟨hwithin, hleast⟩
    · rintro ⟨hwithin, hd⟩
      rw [hd.unique hleast] at hwithin ⊢
      rw [if_pos hwithin]
  · rw [← hbeyond, ← Nat.not_le, ite_eq_right_iff]
    simp
  · exact hbeyond.mp (hgap.trans_le (length_le_add_editDistance xs ys))
  · rcases lastRow?_range bound xs ys hspare with hrow | ⟨hrow, hlt⟩
    · right
      rw [hrow, rowOf_eq]
      simp only [distance_reverse]
    · exact Or.inl ⟨hrow, hbeyond.mp hlt⟩

/-- Three edits are within a bound of 3 and not within a bound of 2; rows are written over a row of
sevens. -/
theorem bounded_editDistance_kitten :
    editDistance? "kitten".toList "sitting".toList 3 = some 3 ∧
    IsLeast {k | Edits k "kitten".toList "sitting".toList} 3 ∧
    (∀ k, Edits k "kitten".toList "sitting".toList → 2 < k) ∧
    lastRow? 3 "sitting".toList (List.range 8) (List.replicate 8 7) "kitten".toList
      = some ("sitting".toList.inits.map (editDistance "kitten".toList)) := by
  obtain ⟨hsome, -, -, hrows⟩ := bounded_editDistance_exact "kitten".toList "sitting".toList 3
  have hnone := (bounded_editDistance_exact "kitten".toList "sitting".toList 2).2.1
  have hthree : editDistance? "kitten".toList "sitting".toList 3 = some 3 := by decide
  refine ⟨hthree, ((hsome 3).mp hthree).2, hnone.mp (by decide), ?_⟩
  rcases hrows (List.replicate 8 7) (by decide) with ⟨-, hbeyond⟩ | hrow
  · exact absurd (hbeyond 3 ((hsome 3).mp hthree).2.1) (lt_irrefl 3)
  · exact hrow

end TextRepair
