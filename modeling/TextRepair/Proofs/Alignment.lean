import TextRepair.Alignment
import TextRepair.Proofs.Rows
import Mathlib.Data.List.Basic
import Mathlib.Data.List.Nodup

/-!
# Alignments are longest common subsequences

An alignment of two lists pairs up equal elements, in order on both sides (`IsAlignment`). Main statement,
`alignment_longest`: `alignment a b` is one, and no other one has more pairs.

* That the pairs are inside and join equal elements does not depend on the table: `walkBack` emits a pair
  only where it has compared the two elements, so it holds along every walk (`mem_walkBack`).
* The table holds the lengths of longest common subsequences by their recursion on the last elements
  (`commonLength`, of reversed lists; `commonEntry_eq`), and a walk through such a table has as many pairs
  as its last entry says (`length_walkBack`). No alignment has more (`IsAlignment.length_le`): if it does
  not pair up the two last elements, it leaves out one of them.
-/

namespace TextRepair

variable {α : Type}

theorem getElem?_reverse_cons_length (x : α) (xs : List α) :
    (x :: xs).reverse[xs.length]? = some x := by
  rw [List.reverse_cons, List.getElem?_append_right (by simp)]
  simp

theorem getElem?_reverse_cons_of_lt (x : α) (xs : List α) {i : Nat} (hi : i < xs.length) :
    (x :: xs).reverse[i]? = xs.reverse[i]? := by
  rw [List.reverse_cons, List.getElem?_append_left (by simpa using hi)]

theorem reverse_take_of_suffix {a s : List α} (hs : s <:+ a.reverse) :
    s.length ≤ a.length ∧ (a.take s.length).reverse = s := by
  have hstart : s.reverse <+: a := by
    rw [← List.reverse_reverse a]
    exact List.reverse_prefix.mpr hs
  have htake := List.prefix_iff_eq_take.mp hstart
  rw [List.length_reverse] at htake
  refine ⟨?_, ?_⟩
  · have := hstart.length_le
    rwa [List.length_reverse] at this
  · rw [← htake, List.reverse_reverse]

/-- Pairs of indices of equal elements of two lists, increasing in both components. -/
structure IsAlignment (a b : List α) (pairs : List (Nat × Nat)) : Prop where
  inside : ∀ p ∈ pairs, p.1 < a.length ∧ p.2 < b.length
  equal : ∀ p ∈ pairs, a[p.1]? = b[p.2]?
  increasing : pairs.Pairwise fun p q => p.1 < q.1 ∧ p.2 < q.2

namespace IsAlignment

variable {a b a' b' : List α} {pairs front : List (Nat × Nat)} {last : Nat × Nat}

instance [DecidableEq α] (a b : List α) (pairs : List (Nat × Nat)) : Decidable (IsAlignment a b pairs) :=
  decidable_of_iff
    ((∀ p ∈ pairs, p.1 < a.length ∧ p.2 < b.length) ∧ (∀ p ∈ pairs, a[p.1]? = b[p.2]?) ∧
      pairs.Pairwise fun p q => p.1 < q.1 ∧ p.2 < q.2)
    ⟨fun h => ⟨h.1, h.2.1, h.2.2⟩, fun h => ⟨h.inside, h.equal, h.increasing⟩⟩

theorem of_isPrefix (h : IsAlignment a b pairs) (ha : a' <+: a) (hb : b' <+: b)
    (hinside : ∀ p ∈ pairs, p.1 < a'.length ∧ p.2 < b'.length) : IsAlignment a' b' pairs where
  inside := hinside
  equal p hp := by
    obtain ⟨hi, hj⟩ := hinside p hp
    obtain ⟨restA, rfl⟩ := ha
    obtain ⟨restB, rfl⟩ := hb
    have heq := h.equal p hp
    rwa [List.getElem?_append_left hi, List.getElem?_append_left hj] at heq
  increasing := h.increasing

theorem lt_last (h : IsAlignment a b (front ++ [last])) :
    ∀ p ∈ front, p.1 < last.1 ∧ p.2 < last.2 := by
  intro p hp
  exact (List.pairwise_append.mp h.increasing).2.2 p hp last (List.mem_singleton_self _)

theorem le_last (h : IsAlignment a b (front ++ [last])) :
    ∀ p ∈ front ++ [last], p.1 ≤ last.1 ∧ p.2 ≤ last.2 := by
  intro p hp
  rcases List.mem_append.mp hp with hp | hp
  · obtain ⟨hi, hj⟩ := h.lt_last p hp
    exact ⟨hi.le, hj.le⟩
  · rw [List.mem_singleton.mp hp]
    exact ⟨Nat.le_refl _, Nat.le_refl _⟩

theorem eq_of_snd_eq (h : IsAlignment a b pairs) {p q : Nat × Nat} (hp : p ∈ pairs) (hq : q ∈ pairs)
    (heq : p.2 = q.2) : p = q := by
  have hnodup : (pairs.map Prod.snd).Nodup := by
    rw [List.Nodup, List.pairwise_map]
    exact h.increasing.imp fun hlt => hlt.2.ne
  exact List.inj_on_of_nodup_map hnodup hp hq heq

theorem of_append (h : IsAlignment a b (front ++ [last])) : IsAlignment a b front where
  inside p hp := h.inside p (List.mem_append_left _ hp)
  equal p hp := h.equal p (List.mem_append_left _ hp)
  increasing := (List.pairwise_append.mp h.increasing).1

end IsAlignment

variable [DecidableEq α]

/-! ### The walk -/

theorem mem_walkBack (entry : Nat → Nat → Nat) (xs ys : List α) (pair : Nat × Nat)
    (hpair : pair ∈ walkBack entry xs ys) :
    pair.1 < xs.length ∧ pair.2 < ys.length ∧ xs.reverse[pair.1]? = ys.reverse[pair.2]? := by
  fun_induction walkBack entry xs ys with
  | case1 xs y ys i j ih =>
    rcases List.mem_cons.mp hpair with rfl | hrest
    · refine ⟨by simp [i], by simp [j], ?_⟩
      rw [getElem?_reverse_cons_length, getElem?_reverse_cons_length]
    · obtain ⟨hi, hj, heq⟩ := ih hrest
      refine ⟨by simp; omega, by simp; omega, ?_⟩
      rw [getElem?_reverse_cons_of_lt _ _ hi, getElem?_reverse_cons_of_lt _ _ hj, heq]
  | case2 x xs y ys i j hne hlt ih =>
    obtain ⟨hi, hj, heq⟩ := ih hpair
    refine ⟨hi, by simp; omega, ?_⟩
    rw [heq, getElem?_reverse_cons_of_lt _ _ hj]
  | case3 x xs y ys i j hne hlt ih =>
    obtain ⟨hi, hj, heq⟩ := ih hpair
    refine ⟨by simp; omega, hj, ?_⟩
    rw [getElem?_reverse_cons_of_lt _ _ hi, heq]
  | case4 => simp at hpair

theorem mem_alignment (a b : List α) {i j : Nat} (hpair : (i, j) ∈ alignment a b) :
    i < a.length ∧ j < b.length ∧ a[i]? = b[j]? := by
  have hwalk := List.mem_reverse.mp hpair
  simpa using mem_walkBack _ _ _ _ hwalk

theorem decreasing_walkBack (entry : Nat → Nat → Nat) (xs ys : List α) :
    (walkBack entry xs ys).Pairwise fun p q => q.1 < p.1 ∧ q.2 < p.2 := by
  fun_induction walkBack entry xs ys with
  | case1 xs y ys i j ih =>
    refine List.pairwise_cons.mpr ⟨fun q hq => ?_, ih⟩
    obtain ⟨hi, hj, -⟩ := mem_walkBack entry xs ys q hq
    exact ⟨hi, hj⟩
  | case2 x xs y ys i j hne hlt ih => exact ih
  | case3 x xs y ys i j hne hlt ih => exact ih
  | case4 => exact List.Pairwise.nil

theorem isAlignment_alignment (a b : List α) : IsAlignment a b (alignment a b) where
  inside p hp := by
    obtain ⟨hi, hj, -⟩ := mem_alignment a b hp
    exact ⟨hi, hj⟩
  equal p hp := (mem_alignment a b hp).2.2
  increasing := List.pairwise_reverse.mpr (decreasing_walkBack _ _ _)

theorem find?_alignment {a b : List α} {i j : Nat} (hpair : (i, j) ∈ alignment a b) :
    (alignment a b).find? (fun pair => pair.2 = j) = some (i, j) := by
  cases hfind : (alignment a b).find? fun pair => pair.2 = j with
  | none =>
    have := List.find?_eq_none.mp hfind _ hpair
    simp at this
  | some pair =>
    have hmem := List.mem_of_find?_eq_some hfind
    have hj : pair.2 = j := by simpa using List.find?_some hfind
    rw [(isAlignment_alignment a b).eq_of_snd_eq hmem hpair hj]

theorem walkBack_self (entry : Nat → Nat → Nat) (xs : List α) :
    walkBack entry xs xs = (List.range xs.length).reverse.map fun i => (i, i) := by
  induction xs with
  | nil => simp [walkBack]
  | cons x xs ih =>
    rw [walkBack, if_pos rfl, ih, List.length_cons, List.range_succ, List.reverse_append]
    rfl

theorem alignment_self (a : List α) : alignment a a = (List.range a.length).map fun i => (i, i) := by
  rw [alignment, walkBack_self, List.map_reverse, List.reverse_reverse, List.length_reverse]

/-! ### The greatest length -/

/-- The length of a longest common subsequence, by recursion on the first elements. -/
def commonLength : List α → List α → Nat
  | x :: xs, y :: ys =>
    if x = y then commonLength xs ys + 1
    else max (commonLength (x :: xs) ys) (commonLength xs (y :: ys))
  | _, _ => 0
  termination_by xs ys => xs.length + ys.length

@[simp] theorem commonLength_nil_left (ys : List α) : commonLength [] ys = 0 := by
  rw [commonLength]
  simp

@[simp] theorem commonLength_nil_right (xs : List α) : commonLength xs [] = 0 := by
  rw [commonLength]
  simp

theorem commonLength_cons_cons (x y : α) (xs ys : List α) :
    commonLength (x :: xs) (y :: ys)
      = if x = y then commonLength xs ys + 1
        else max (commonLength (x :: xs) ys) (commonLength xs (y :: ys)) := by
  rw [commonLength]

theorem IsAlignment.length_le {xs ys : List α} {pairs : List (Nat × Nat)}
    (h : IsAlignment xs.reverse ys.reverse pairs) : pairs.length ≤ commonLength xs ys := by
  have hcons (z : α) (zs : List α) : zs.reverse <+: (z :: zs).reverse := by
    rw [List.reverse_cons]
    exact List.prefix_append _ _
  -- An alignment that leaves out a last element is one of the list without it.
  fun_induction commonLength xs ys generalizing pairs with
  | case1 xs y ys ih =>
    rcases pairs.eq_nil_or_concat' with rfl | ⟨front, last, rfl⟩
    · exact Nat.zero_le _
    · -- all pairs but the last one are inside the lists without their last elements
      obtain ⟨hi, hj⟩ := h.inside last (by simp)
      rw [List.length_reverse, List.length_cons] at hi hj
      have hfront := h.of_append.of_isPrefix (hcons y xs) (hcons y ys) fun p hp => by
        have := h.lt_last p hp
        rw [List.length_reverse, List.length_reverse]
        omega
      have := ih hfront
      rw [List.length_append, List.length_singleton]
      omega
  | case2 x xs y ys hne ihleft ihright =>
    rcases pairs.eq_nil_or_concat' with rfl | ⟨front, last, rfl⟩
    · exact Nat.zero_le _
    · obtain ⟨hi, hj⟩ := h.inside last (by simp)
      rw [List.length_reverse, List.length_cons] at hi hj
      by_cases hx : last.1 < xs.length
      · refine (ihright (h.of_isPrefix (hcons x xs) (List.prefix_refl _) fun p hp => ?_)).trans
          (Nat.le_max_right _ _)
        have := h.le_last p hp
        rw [List.length_reverse, List.length_reverse, List.length_cons]
        omega
      by_cases hy : last.2 < ys.length
      · refine (ihleft (h.of_isPrefix (List.prefix_refl _) (hcons y ys) fun p hp => ?_)).trans
          (Nat.le_max_left _ _)
        have := h.le_last p hp
        rw [List.length_reverse, List.length_reverse, List.length_cons]
        omega
      -- the last pair joins the two last elements, which are not equal
      · have heq := h.equal last (by simp)
        have hx : last.1 = xs.length := by omega
        have hy : last.2 = ys.length := by omega
        rw [hx, hy, getElem?_reverse_cons_length, getElem?_reverse_cons_length] at heq
        exact absurd (Option.some.inj heq) hne
  | case3 xs ys hempty =>
    cases pairs with
    | nil => exact Nat.le_refl _
    | cons p rest =>
      obtain ⟨hi, hj⟩ := h.inside p List.mem_cons_self
      rw [List.length_reverse] at hi hj
      obtain ⟨x, xs, rfl⟩ := List.exists_cons_of_length_pos (Nat.zero_lt_of_lt hi)
      obtain ⟨y, ys, rfl⟩ := List.exists_cons_of_length_pos (Nat.zero_lt_of_lt hj)
      exact absurd rfl (hempty x xs y ys rfl)

/-! ### The table -/

theorem commonRowFrom_entriesFrom (x : α) (p q ys : List α) :
    commonRowFrom x (commonLength p q) (commonLength (x :: p) q) ys (entriesFrom (commonLength p) q ys)
      = entriesFrom (commonLength (x :: p)) q ys := by
  induction ys generalizing q with
  | nil => rfl
  | cons y ys ih =>
    rw [entriesFrom, entriesFrom, commonRowFrom]
    simp only [← commonLength_cons_cons]
    rw [ih]

theorem nextCommonRow_rowOf (x : α) (p ys : List α) :
    nextCommonRow x ys (rowOf (commonLength p) ys) = rowOf (commonLength (x :: p)) ys := by
  have hrest := commonRowFrom_entriesFrom x p [] ys
  rw [commonLength_nil_right (x :: p)] at hrest
  rw [rowOf, nextCommonRow, hrest, rowOf, commonLength_nil_right (x :: p)]

theorem commonRows_rowOf (p ys xs : List α) :
    commonRows ys (rowOf (commonLength p) ys) xs
      = xs.inits.map fun s => rowOf (commonLength (s.reverse ++ p)) ys := by
  induction xs generalizing p with
  | nil => rfl
  | cons x xs ih =>
    rw [commonRows, nextCommonRow_rowOf, ih, List.inits_cons, List.map_cons, List.map_map]
    congr 1
    apply List.map_congr_left
    intro s _
    show rowOf (commonLength (s.reverse ++ x :: p)) ys = rowOf (commonLength ((x :: s).reverse ++ p)) ys
    rw [List.reverse_cons, List.append_assoc, List.singleton_append]

theorem rowOf_commonLength_nil (ys : List α) :
    rowOf (commonLength []) ys = List.replicate (ys.length + 1) 0 := by
  rw [List.eq_replicate_iff, length_rowOf]
  refine ⟨rfl, fun n hn => ?_⟩
  rw [rowOf_eq, List.mem_map] at hn
  obtain ⟨t, -, rfl⟩ := hn
  exact commonLength_nil_left _

/-- The entries of the table through which an alignment walks back. -/
def commonEntry (a b : List α) (i j : Nat) : Nat :=
  ((((commonRows b (List.replicate (b.length + 1) 0) a).map List.toArray).toArray[i]?).bind
    (·[j]?)).getD 0

theorem alignment_eq (a b : List α) :
    alignment a b = (walkBack (commonEntry a b) a.reverse b.reverse).reverse :=
  rfl

theorem commonEntry_eq (a b : List α) {i j : Nat} (hi : i ≤ a.length) (hj : j ≤ b.length) :
    commonEntry a b i j = commonLength (a.take i).reverse (b.take j).reverse := by
  have hlt : i < a.inits.length := by
    rw [List.length_inits]
    omega
  have hrow : (commonRows b (List.replicate (b.length + 1) 0) a)[i]?
      = some (rowOf (commonLength (a.take i).reverse) b) := by
    rw [← rowOf_commonLength_nil, commonRows_rowOf, List.getElem?_map, List.getElem?_eq_getElem hlt,
      List.getElem_inits, Option.map_some, List.append_nil]
  rw [commonEntry, List.getElem?_toArray, List.getElem?_map, hrow]
  simp only [Option.map_some, Option.bind_some, List.getElem?_toArray, getElem?_rowOf _ hj,
    Option.getD_some]

/-- The entries are the greatest lengths for the ends of `xs` and `ys`. -/
def HoldsLengths (entry : Nat → Nat → Nat) (xs ys : List α) : Prop :=
  ∀ s t, s <:+ xs → t <:+ ys → entry s.length t.length = commonLength s t

namespace HoldsLengths

variable {entry : Nat → Nat → Nat} {x y : α} {xs ys : List α}

theorem tail_left (h : HoldsLengths entry (x :: xs) ys) : HoldsLengths entry xs ys :=
  fun s t hs => h s t (hs.trans (List.suffix_cons x xs))

theorem tail_right (h : HoldsLengths entry xs (y :: ys)) : HoldsLengths entry xs ys :=
  fun s t hs ht => h s t hs (ht.trans (List.suffix_cons y ys))

theorem entry_lt_iff (h : HoldsLengths entry (x :: xs) (y :: ys)) :
    entry xs.length (ys.length + 1) < entry (xs.length + 1) ys.length
      ↔ commonLength xs (y :: ys) < commonLength (x :: xs) ys := by
  have hup := h xs (y :: ys) (List.suffix_cons x xs) List.suffix_rfl
  have hleft := h (x :: xs) ys List.suffix_rfl (List.suffix_cons y ys)
  rw [List.length_cons] at hup hleft
  rw [hup, hleft]

end HoldsLengths

/-- Through a table that holds the greatest lengths a walk collects as many pairs. -/
theorem length_walkBack {entry : Nat → Nat → Nat} {xs ys : List α} (hentry : HoldsLengths entry xs ys) :
    (walkBack entry xs ys).length = commonLength xs ys := by
  fun_induction walkBack entry xs ys with
  | case1 xs y ys i j ih =>
    rw [List.length_cons, ih hentry.tail_left.tail_right, commonLength_cons_cons, if_pos rfl]
  | case2 x xs y ys i j hne hlt ih =>
    have hle := (hentry.entry_lt_iff.mp hlt).le
    rw [ih hentry.tail_right, commonLength_cons_cons, if_neg hne, Nat.max_eq_left hle]
  | case3 x xs y ys i j hne hlt ih =>
    have hle := Nat.not_lt.mp (mt hentry.entry_lt_iff.mpr hlt)
    rw [ih hentry.tail_left, commonLength_cons_cons, if_neg hne, Nat.max_eq_right hle]
  | case4 xs ys hempty =>
    cases xs with
    | nil => rw [commonLength_nil_left, List.length_nil]
    | cons x xs =>
      cases ys with
      | nil => rw [commonLength_nil_right, List.length_nil]
      | cons y ys => exact absurd rfl (hempty x xs y ys rfl)

theorem length_alignment (a b : List α) : (alignment a b).length = commonLength a.reverse b.reverse := by
  rw [alignment_eq, List.length_reverse]
  apply length_walkBack
  intro s t hs ht
  obtain ⟨hsle, hstake⟩ := reverse_take_of_suffix hs
  obtain ⟨htle, httake⟩ := reverse_take_of_suffix ht
  rw [commonEntry_eq a b hsle htle, hstake, httake]

/-- The pairs found are inside the lists, join equal elements, increase in both components, and are as
many as in any such list of pairs. -/
theorem alignment_longest (a b : List α) :
    IsAlignment a b (alignment a b) ∧
    ∀ pairs, IsAlignment a b pairs → pairs.length ≤ (alignment a b).length := by
  refine ⟨isAlignment_alignment a b, fun pairs hpairs => ?_⟩
  rw [← List.reverse_reverse a, ← List.reverse_reverse b] at hpairs
  rw [length_alignment]
  exact hpairs.length_le

/-- Of these lists three elements can be paired up, but not together with the first element of the first
list. -/
theorem alignment_longest_moved :
    IsAlignment ["c", "a", "b", "a"] ["a", "b", "a", "c"] [(1, 0), (2, 1), (3, 2)] ∧
    3 ≤ (alignment ["c", "a", "b", "a"] ["a", "b", "a", "c"]).length := by
  have hpairs : IsAlignment ["c", "a", "b", "a"] ["a", "b", "a", "c"] [(1, 0), (2, 1), (3, 2)] := by
    decide
  exact ⟨hpairs, (alignment_longest _ _).2 _ hpairs⟩

end TextRepair
