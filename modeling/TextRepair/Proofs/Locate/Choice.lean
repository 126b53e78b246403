import TextRepair.Locate.Candidate
import TextRepair.Proofs.Score
import Mathlib.Data.List.MinMax
import Mathlib.Data.Prod.Lex
import Mathlib.Data.Set.Card

/-!
# The choice among windows

Among windows of one score the choice is a lexicographic minimum: the distance from the hint, then the
difference in length from the anchor, then the start (`rank`), and the earliest entry of the list where
all three agree (`first?_eq_argmin`). For windows that all have the same score nothing else decides
(`best?_of_score_eq`).

Over the rationals, and for scores that are fractions with small denominators, the windows within the
tolerance of the best score are those with that very score (`best?_of_isFraction`), and in a list that
is sorted by size and start the choice beats every other window (`beats_of_mem_argmin`).
-/

namespace TextRepair.Window

variable {S : Type}

/-- What decides among windows of one score, most important first. -/
def rank (anchorSize : Nat) (hint : Option Nat) (w : Window S) : ℕ ×ₗ ℕ ×ₗ ℕ :=
  toLex (w.hintGap hint, toLex (gap w.size anchorSize, w.start))

theorem precedes_iff (anchorSize : Nat) (hint : Option Nat) (v w : Window S) :
    precedes anchorSize hint v w = true ↔ v.rank anchorSize hint < w.rank anchorSize hint := by
  simp only [precedes, rank, Prod.Lex.toLex_lt_toLex]
  rcases lt_trichotomy (v.hintGap hint) (w.hintGap hint) with h | h | h
  · simp [Nat.compare_eq_lt.mpr h, h]
  · rcases lt_trichotomy (gap v.size anchorSize) (gap w.size anchorSize) with h' | h' | h'
    · simp [h, Nat.compare_eq_lt.mpr h', h']
    · rcases lt_trichotomy v.start w.start with h'' | h'' | h''
      · simp [h, h', Nat.compare_eq_lt.mpr h'', h'']
      · simp [h, h', h'']
      · simp [h, h', Nat.compare_eq_gt.mpr h'', h''.not_gt]
    · simp [h, Nat.compare_eq_gt.mpr h', h'.not_gt, h'.ne']
  · simp [Nat.compare_eq_gt.mpr h, h.not_gt, h.ne']

theorem first?_eq_argmin (anchorSize : Nat) (hint : Option Nat) (ws : List (Window S)) :
    first? anchorSize hint ws = ws.argmin (rank anchorSize hint) := by
  cases ws with
  | nil => rfl
  | cons w ws =>
    simp only [first?]
    induction ws using List.reverseRecOn with
    | nil => rfl
    | append_singleton ws v ih =>
      rw [List.foldl_append, List.foldl_cons, List.foldl_nil, ← List.cons_append,
        List.argmin_concat, ← ih]
      simp only [precedes_iff]
      split_ifs <;> rfl

variable [Score S]

theorem top?_of_score_eq {ws : List (Window S)} {x : S} (hne : ws ≠ [])
    (hscore : ∀ w ∈ ws, w.score = x) : top? ws = some x := by
  obtain ⟨w, ws, rfl⟩ := List.exists_cons_of_ne_nil hne
  have hfold : ∀ vs : List (Window S), (∀ v ∈ vs, v.score = x) →
      vs.foldl (fun best v => Score.greatest best v.score) x = x := by
    intro vs
    induction vs with
    | nil => exact fun _ => rfl
    | cons v vs ih =>
      intro hvs
      rw [List.foldl_cons, hvs v List.mem_cons_self, Score.greatest, ite_self]
      exact ih fun u hu => hvs u (List.mem_cons_of_mem _ hu)
  rw [top?, hscore w List.mem_cons_self, hfold ws fun v hv => hscore v (List.mem_cons_of_mem _ hv)]

theorem best?_of_score_eq {ws : List (Window S)} {x : S} (hnear : Score.near x x = true)
    (hscore : ∀ w ∈ ws, w.score = x) (anchorSize : Nat) (hint : Option Nat) :
    best? ws anchorSize hint
      = (ws.argmin (rank anchorSize hint)).map fun best => (best, (ws.filter (apart best)).length) := by
  by_cases hne : ws = []
  · subst hne
    rfl
  · have hties : (ws.filter fun w => Score.near w.score x) = ws :=
      List.filter_eq_self.mpr fun w hw => by rw [hscore w hw, hnear]
    rw [best?, top?_of_score_eq hne hscore]
    simp only [hties, first?_eq_argmin]

theorem best?_of_top? {ws ties : List (Window S)} {top : S} (htop : top? ws = some top)
    (hties : (ws.filter fun w => Score.near w.score top) = ties) (anchorSize : Nat) (hint : Option Nat) :
    best? ws anchorSize hint
      = (first? anchorSize hint ties).map fun best => (best, (ties.filter (apart best)).length) := by
  rw [best?, htop, ← hties]

theorem report?_of_top? {ws : List (Window S)} {top : S} (htop : top? ws = some top)
    (hreached : ∃ w ∈ ws, Score.near w.score top = true) (anchorSize : Nat) (hint : Option Nat)
    (strategy : Strategy) (cap : S) :
    ∃ found, report? ws anchorSize hint strategy cap = some found ∧ ∃ w ∈ ws,
      Score.near w.score top = true ∧ found.score = w.score ∧
      found.candidate.start = w.start ∧ found.candidate.stop = w.stop := by
  obtain ⟨w, hw, hnear⟩ := hreached
  have htie : w ∈ ws.filter fun w => Score.near w.score top := List.mem_filter.mpr ⟨hw, hnear⟩
  rw [report?, best?_of_top? htop rfl, first?_eq_argmin]
  cases hbest : (ws.filter fun w => Score.near w.score top).argmin (rank anchorSize hint) with
  | none =>
    rw [List.argmin_eq_none.mp hbest] at htie
    exact absurd htie List.not_mem_nil
  | some best =>
    obtain ⟨hbest, hnear⟩ := List.mem_filter.mp (List.argmin_mem hbest)
    exact ⟨_, rfl, best, hbest, hnear, rfl, rfl, rfl⟩

theorem mem_of_best? {ws : List (Window S)} {anchorSize : Nat} {hint : Option Nat} {w : Window S}
    {alternatives : Nat} (hbest : best? ws anchorSize hint = some (w, alternatives)) : w ∈ ws := by
  unfold best? at hbest
  split at hbest
  · cases hbest
  · obtain ⟨v, hv, heq⟩ := Option.map_eq_some_iff.mp hbest
    cases heq
    rw [first?_eq_argmin] at hv
    exact (List.mem_filter.mp (List.argmin_mem hv)).1

/-! ### Rational scores -/

/-- `w` is a better choice than `v`: by score, then by `rank`, then by being shorter. -/
def Beats (anchorSize : Nat) (hint : Option Nat) (w v : Window Rat) : Prop :=
  v.score < w.score ∨ v.score = w.score ∧
    (w.rank anchorSize hint < v.rank anchorSize hint ∨
      w.rank anchorSize hint = v.rank anchorSize hint ∧ w.size < v.size)

theorem Beats.asymm {anchorSize : Nat} {hint : Option Nat} {w v : Window Rat}
    (h : w.Beats anchorSize hint v) : ¬v.Beats anchorSize hint w := by
  rintro (hscore | ⟨hscore, hrank | ⟨hrank, hsize⟩⟩)
  · rcases h with h | ⟨h, -⟩
    · exact lt_asymm h hscore
    · exact hscore.ne h.symm
  · rcases h with h | ⟨-, h | ⟨h, -⟩⟩
    · exact h.ne hscore.symm
    · exact lt_asymm h hrank
    · exact hrank.ne h.symm
  · rcases h with h | ⟨-, h | ⟨-, h⟩⟩
    · exact h.ne hscore.symm
    · exact h.ne hrank.symm
    · exact lt_asymm h hsize

/-- The order in which a search visits windows: by size, then by start. -/
def Before {S : Type} (v w : Window S) : Prop :=
  v.size < w.size ∨ v.size = w.size ∧ v.start < w.start

theorem top?_eq_max? (ws : List (Window Rat)) : top? ws = (ws.map Window.score).max? := by
  cases ws with
  | nil => rfl
  | cons w ws =>
    simp only [top?, Score.greatest_rat, List.map_cons, List.max?_cons', List.foldl_map]

theorem top?_eq_some {ws : List (Window Rat)} {top : Rat} (hle : ∀ w ∈ ws, w.score ≤ top)
    (hreached : ∃ w ∈ ws, w.score = top) : top? ws = some top := by
  rw [top?_eq_max?, List.max?_eq_some_iff]
  refine ⟨List.mem_map.mpr hreached, fun score hscore => ?_⟩
  obtain ⟨w, hw, rfl⟩ := List.mem_map.mp hscore
  exact hle w hw

/-- Where no other score is within the tolerance of the best one, the choice is among the windows of the
best score. -/
theorem best?_of_isolated {ws : List (Window Rat)} {top : Rat}
    (hisolated : ∀ w ∈ ws, Score.near w.score top = true → w.score = top) (hle : ∀ w ∈ ws, w.score ≤ top)
    (hreached : ∃ w ∈ ws, w.score = top) (anchorSize : Nat) (hint : Option Nat) :
    best? ws anchorSize hint
      = ((ws.filter fun w => w.score = top).argmin (rank anchorSize hint)).map fun best =>
          (best, ((ws.filter fun w => w.score = top).filter (apart best)).length) := by
  have hties : (ws.filter fun w => Score.near w.score top) = ws.filter fun w => w.score = top := by
    apply List.filter_congr
    intro w hw
    rw [Bool.eq_iff_iff, decide_eq_true_eq]
    exact ⟨hisolated w hw, fun heq => heq ▸ Score.near_self_rat _⟩
  rw [best?, top?_eq_some hle hreached]
  simp only [hties, first?_eq_argmin]

theorem best?_of_isFraction {ws : List (Window Rat)} {top : Rat}
    (hfraction : ∀ w ∈ ws, Score.IsFraction w.score) (hle : ∀ w ∈ ws, w.score ≤ top)
    (hreached : ∃ w ∈ ws, w.score = top) (anchorSize : Nat) (hint : Option Nat) :
    best? ws anchorSize hint
      = ((ws.filter fun w => w.score = top).argmin (rank anchorSize hint)).map fun best =>
          (best, ((ws.filter fun w => w.score = top).filter (apart best)).length) := by
  have htop : Score.IsFraction top := by
    obtain ⟨w, hw, rfl⟩ := hreached
    exact hfraction w hw
  apply best?_of_isolated _ hle hreached
  intro w hw hnear
  exact (Score.near_iff_eq (hfraction w hw) htop).mp hnear

theorem eq_or_rel_of_mem_argmin {α β : Type} [LinearOrder β] {f : α → β} {l : List α}
    {r : α → α → Prop} (hsorted : l.Pairwise r) {a b : α} (ha : a ∈ l.argmin f) (hb : b ∈ l)
    (hle : f b ≤ f a) : b = a ∨ r a b := by
  classical
  have hindex := List.index_of_argmin ha hb hle
  have hamem := List.argmin_mem ha
  rcases hindex.eq_or_lt with heq | hlt
  · exact Or.inl ((List.idxOf_inj hamem).mp heq).symm
  · right
    have := List.pairwise_iff_getElem.mp hsorted _ _ (List.idxOf_lt_length_of_mem hamem)
      (List.idxOf_lt_length_of_mem hb) hlt
    rwa [List.getElem_idxOf, List.getElem_idxOf] at this

theorem beats_of_mem_argmin {ws : List (Window Rat)} (hsorted : ws.Pairwise Before) {top : Rat}
    (hle : ∀ w ∈ ws, w.score ≤ top) {anchorSize : Nat} {hint : Option Nat} {best v : Window Rat}
    (hbest : best ∈ (ws.filter fun w => w.score = top).argmin (rank anchorSize hint)) (hv : v ∈ ws)
    (hne : v ≠ best) : best.Beats anchorSize hint v := by
  have hmem := List.mem_filter.mp (List.argmin_mem hbest)
  have hscore : best.score = top := of_decide_eq_true hmem.2
  rcases (hle v hv).lt_or_eq with hlt | heq
  · exact Or.inl (by rwa [hscore])
  · have htie : v ∈ ws.filter fun w => w.score = top :=
      List.mem_filter.mpr ⟨hv, decide_eq_true heq⟩
    refine Or.inr ⟨by rw [heq, hscore], ?_⟩
    rcases (List.le_of_mem_argmin htie hbest).lt_or_eq with hrank | hrank
    · exact Or.inl hrank
    · refine Or.inr ⟨hrank, ?_⟩
      have hstart : best.start = v.start := by
        simp only [rank, EmbeddingLike.apply_eq_iff_eq, Prod.mk.injEq] at hrank
        exact hrank.2.2
      rcases eq_or_rel_of_mem_argmin (hsorted.filter _) hbest htie hrank.ge with h | h | h
      · exact absurd h hne
      · exact h
      · omega

/-! ### Rivals -/

/-- `v` has the score of `w` and no line in common with it. -/
def IsRival (w v : Window Rat) : Prop :=
  v.score = w.score ∧ (w.stop ≤ v.start ∨ v.stop ≤ w.start)

end TextRepair.Window
