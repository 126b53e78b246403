import TextRepair.Proofs.Locate.Choice
import TextRepair.Proofs.Locate.Similarity
import TextRepair.Locate.Search

/-!
# The sieve loses no best window

A search by similarity drops a window as soon as it provably falls below the best score so far. Main
statement, `report?_similarWindows`: over the rationals, and for texts of fewer than 31000 characters,
its report is the one that the list of all windows with their true similarities determines.

The invariant (`Sieve.Holds`) compares the sieve with the windows visited so far: its floor is their
best score, and for every score from the floor on it has kept the same windows in the same order. The
floor only rises, so a window that is dropped has a score that is never asked for again.
-/

namespace TextRepair

namespace Locate

/-- Whether a search looks at the window of `span`. -/
def isVisited (blocks : Bool) (lines : List (List Char)) (span : Nat × Nat) : Bool :=
  !(blocks && !isBlock (slice lines span.1 span.2))

/-- The window of `span` with its true similarity to `wanted`. -/
noncomputable def trueWindow (blocks : Bool) (lines : List (List Char)) (wanted : List Char)
    (span : Nat × Nat) : Window Rat :=
  ⟨span.1, span.2, trueSimilarity wanted (windowText blocks (slice lines span.1 span.2))⟩

/-- All windows that a search looks at, in its order, with their true similarities. -/
noncomputable def trueWindows (blocks : Bool) (lines : List (List Char)) (wanted : List Char)
    (spans : List (Nat × Nat)) : List (Window Rat) :=
  (spans.filter (isVisited blocks lines)).map (trueWindow blocks lines wanted)

/-- The sieve after a search has looked at the windows `ws`. -/
structure Sieve.Holds (ws : List (Window Rat)) (sieve : Sieve Rat) : Prop where
  fraction : Score.IsFraction sieve.floor
  nonneg : 0 ≤ sieve.floor
  le_floor : ∀ w ∈ ws, w.score ≤ sieve.floor
  reached : sieve.floor = 0 ∨ ∃ w ∈ ws, w.score = sieve.floor
  kept : ∀ score, sieve.floor ≤ score →
    sieve.kept.reverse.filter (fun w => w.score = score) = ws.filter fun w => w.score = score
  subset : ∀ w ∈ sieve.kept, w ∈ ws

theorem Sieve.holds_nil : Sieve.Holds [] ⟨Score.ofNat 0, []⟩ := by
  rw [Score.ofNat_rat, Nat.cast_zero]
  exact {
    fraction := Score.isFraction_zero
    nonneg := le_rfl
    le_floor := by simp
    reached := Or.inl rfl
    kept := by simp
    subset := by simp }

theorem Sieve.Holds.keep {ws : List (Window Rat)} {sieve : Sieve Rat} (h : sieve.Holds ws)
    {w : Window Rat} (hfraction : Score.IsFraction w.score) (hreach : sieve.floor ≤ w.score) :
    Sieve.Holds (ws ++ [w]) ⟨Score.greatest sieve.floor w.score, w :: sieve.kept⟩ := by
  rw [Score.greatest_rat, max_eq_right hreach]
  refine ⟨hfraction, h.nonneg.trans hreach, ?_, ?_, ?_, ?_⟩
  · intro v hv
    rcases List.mem_append.mp hv with hv | hv
    · exact (h.le_floor v hv).trans hreach
    · rw [List.mem_singleton.mp hv]
  · exact Or.inr ⟨w, by simp, rfl⟩
  · intro score hscore
    rw [List.reverse_cons, List.filter_append, List.filter_append,
      h.kept score (hreach.trans hscore)]
  · intro v hv
    rcases List.mem_cons.mp hv with rfl | hv
    · simp
    · exact List.mem_append_left _ (h.subset v hv)

theorem Sieve.Holds.drop {ws : List (Window Rat)} {sieve : Sieve Rat} (h : sieve.Holds ws)
    {w : Window Rat} (hbelow : w.score < sieve.floor) :
    sieve.Holds (ws ++ [w]) := by
  refine ⟨h.fraction, h.nonneg, ?_, ?_, ?_, ?_⟩
  · intro v hv
    rcases List.mem_append.mp hv with hv | hv
    · exact h.le_floor v hv
    · rw [List.mem_singleton.mp hv]
      exact hbelow.le
  · refine h.reached.imp id ?_
    rintro ⟨v, hv, hscore⟩
    exact ⟨v, List.mem_append_left _ hv, hscore⟩
  · intro score hscore
    have hother : w.score ≠ score := (hbelow.trans_le hscore).ne
    rw [List.filter_append, h.kept score hscore, List.filter_singleton]
    simp [hother]
  · exact fun v hv => List.mem_append_left _ (h.subset v hv)

theorem trueWindows_cons (blocks : Bool) (lines : List (List Char)) (wanted : List Char)
    (span : Nat × Nat) (spans : List (Nat × Nat)) :
    trueWindows blocks lines wanted (span :: spans)
      = trueWindows blocks lines wanted [span] ++ trueWindows blocks lines wanted spans := by
  rw [trueWindows, trueWindows, trueWindows, ← List.map_append, ← List.filter_append]
  rfl

/-! ### The report -/

/-- The report of a search that looks at all of `ws`: the window that beats all others, with the number
of equally scored windows that have no line in common with it; nothing only if there is no window. -/
def IsExhaustive (ws : List (Window Rat)) (anchorSize : Nat) (hint : Option Nat)
    (strategy : Strategy) : Option (Scan Rat) → Prop
  | none => ws = []
  | some found => ∃ w ∈ ws, (∀ v ∈ ws, v ≠ w → w.Beats anchorSize hint v) ∧
      found.score = w.score ∧
      found.candidate.alternatives
        = ((ws.filter fun v => v.score = w.score).filter (Window.apart w)).length ∧
      found.candidate =
        { start := w.start, stop := w.stop
          confidence := confidenceOf w.score Score.inexactCap found.candidate.alternatives
          strategy, alternatives := found.candidate.alternatives }

theorem Sieve.Holds.exists_score_eq_floor {ws : List (Window Rat)} {sieve : Sieve Rat}
    (h : sieve.Holds ws) (hne : ws ≠ []) (hnonneg : ∀ w ∈ ws, 0 ≤ w.score) :
    ∃ w ∈ ws, w.score = sieve.floor := by
  rcases h.reached with hzero | hreached
  · obtain ⟨w, hw⟩ := List.exists_mem_of_ne_nil _ hne
    exact ⟨w, hw, le_antisymm (h.le_floor w hw) (hzero ▸ hnonneg w hw)⟩
  · exact hreached

theorem Sieve.Holds.report? {ws : List (Window Rat)} {sieve : Sieve Rat} (h : sieve.Holds ws)
    (hsorted : ws.Pairwise Window.Before) (hfraction : ∀ w ∈ ws, Score.IsFraction w.score)
    (hnonneg : ∀ w ∈ ws, 0 ≤ w.score) (anchorSize : Nat) (hint : Option Nat)
    (strategy : Strategy) :
    IsExhaustive ws anchorSize hint strategy
      (Window.report? sieve.kept.reverse anchorSize hint strategy Score.inexactCap) := by
  have hmem : ∀ w ∈ sieve.kept.reverse, w ∈ ws := fun w hw => h.subset w (List.mem_reverse.mp hw)
  by_cases hne : ws = []
  · have hempty : sieve.kept.reverse = [] := by
      rw [List.eq_nil_iff_forall_not_mem]
      intro w hw
      have := hmem w hw
      rw [hne] at this
      exact List.not_mem_nil this
    rw [hempty]
    exact hne
  have hties := h.kept sieve.floor le_rfl
  obtain ⟨top, htop, hscore⟩ := h.exists_score_eq_floor hne hnonneg
  have htie : top ∈ ws.filter fun w => w.score = sieve.floor :=
    List.mem_filter.mpr ⟨htop, decide_eq_true hscore⟩
  have hreached : ∃ w ∈ sieve.kept.reverse, w.score = sieve.floor := by
    rw [← hties] at htie
    exact ⟨top, (List.mem_filter.mp htie).1, hscore⟩
  rw [Window.report?, Window.best?_of_isFraction (fun w hw => hfraction w (hmem w hw))
    (fun w hw => h.le_floor w (hmem w hw)) hreached, hties]
  cases hbest : (ws.filter fun w => w.score = sieve.floor).argmin
      (Window.rank anchorSize hint) with
  | none =>
    rw [List.argmin_eq_none.mp hbest] at htie
    exact absurd htie List.not_mem_nil
  | some w =>
    obtain ⟨hw, hscore⟩ := List.mem_filter.mp (List.argmin_mem hbest)
    refine ⟨w, hw, fun v hv hvne => Window.beats_of_mem_argmin hsorted h.le_floor hbest hv hvne,
      rfl, ?_, rfl⟩
    rw [of_decide_eq_true hscore]

section Search

variable {blocks : Bool} {lines : List (List Char)} {wanted : List Char}

theorem Sieve.Holds.visit {ws : List (Window Rat)} {sieve : Sieve Rat} (h : sieve.Holds ws)
    (hwanted : wanted.length < 31000) {span : Nat × Nat}
    (htext : isVisited blocks lines span = true →
      (windowText blocks (slice lines span.1 span.2)).length < 31000) :
    (sieve.visit blocks lines wanted span).Holds (ws ++ trueWindows blocks lines wanted [span]) := by
  obtain ⟨start, size⟩ := span
  unfold Sieve.visit trueWindows
  by_cases hskip : (blocks && !isBlock (slice lines start size)) = true
  · have hvisited : isVisited blocks lines (start, size) = false := by simp [isVisited, hskip]
    simpa [hskip, hvisited] using h
  · have hvisited : isVisited blocks lines (start, size) = true := by simp [isVisited, hskip]
    have hlength := htext hvisited
    simp only [hskip, Bool.false_eq_true, if_false, hvisited, List.filter_cons_of_pos,
      List.filter_nil, List.map_cons, List.map_nil,
      similarityAtLeast_eq hwanted hlength h.fraction h.nonneg]
    by_cases hreach : sieve.floor
        ≤ trueSimilarity wanted (windowText blocks (slice lines start size))
    · rw [if_pos hreach]
      exact h.keep (w := trueWindow blocks lines wanted (start, size))
        (isFraction_trueSimilarity hwanted hlength) hreach
    · rw [if_neg hreach]
      exact h.drop (w := trueWindow blocks lines wanted (start, size)) (not_le.mp hreach)

theorem Sieve.Holds.foldl_visit (hwanted : wanted.length < 31000) (spans : List (Nat × Nat)) :
    ∀ (ws : List (Window Rat)) (sieve : Sieve Rat), sieve.Holds ws →
      (∀ span ∈ spans, isVisited blocks lines span = true →
        (windowText blocks (slice lines span.1 span.2)).length < 31000) →
      (spans.foldl (Sieve.visit blocks lines wanted) sieve).Holds
        (ws ++ trueWindows blocks lines wanted spans) := by
  induction spans with
  | nil =>
    intro ws sieve h _
    simpa [trueWindows] using h
  | cons span spans ih =>
    intro ws sieve h htext
    rw [List.foldl_cons, trueWindows_cons, ← List.append_assoc]
    exact ih _ _ (h.visit hwanted (htext span List.mem_cons_self))
      fun s hs => htext s (List.mem_cons_of_mem _ hs)

theorem holds_similarWindows (hwanted : wanted.length < 31000) {least most : Nat}
    (htext : ∀ span ∈ spans lines.length least most, isVisited blocks lines span = true →
      (windowText blocks (slice lines span.1 span.2)).length < 31000) :
    ∃ sieve : Sieve Rat, similarWindows blocks lines wanted least most = sieve.kept.reverse ∧
      sieve.Holds (trueWindows blocks lines wanted (spans lines.length least most)) :=
  ⟨_, rfl, by simpa using Sieve.holds_nil.foldl_visit hwanted _ [] _ htext⟩

theorem nonneg_of_mem_trueWindows {spans : List (Nat × Nat)} {w : Window Rat}
    (hw : w ∈ trueWindows blocks lines wanted spans) : 0 ≤ w.score := by
  obtain ⟨span, -, rfl⟩ := List.mem_map.mp hw
  exact trueSimilarity_nonneg _ _

theorem isFraction_of_mem_trueWindows (hwanted : wanted.length < 31000)
    {spans : List (Nat × Nat)}
    (htext : ∀ span ∈ spans, isVisited blocks lines span = true →
      (windowText blocks (slice lines span.1 span.2)).length < 31000)
    {w : Window Rat} (hw : w ∈ trueWindows blocks lines wanted spans) :
    Score.IsFraction w.score := by
  obtain ⟨span, hspan, rfl⟩ := List.mem_map.mp hw
  obtain ⟨hspan, hvisited⟩ := List.mem_filter.mp hspan
  exact isFraction_trueSimilarity hwanted (htext span hspan hvisited)

end Search

end Locate

end TextRepair
