import TextRepair.Proofs.Locate.Choice
import TextRepair.Proofs.Splice
import TextRepair.Locate.Search

/-!
# The verbatim search

The windows of the verbatim search are the places where the anchor occurs (`mem_exactWindows`), all of
one score, so the search reports the occurrence that comes first by distance from the hint, together with
the number of occurrences elsewhere (`scan_exact_cases`). An occurrence at the hint itself has distance 0
and is therefore the one that is found (`scan_exact_at_hint`).
-/

namespace TextRepair

namespace Locate

/-- The lines `anchor` stand in `lines` from line `start` on. -/
def OccursAt (lines anchor : List String) (start : Nat) : Prop :=
  start + anchor.length ≤ lines.length ∧ slice lines start anchor.length = anchor

instance (lines anchor : List String) (start : Nat) : Decidable (OccursAt lines anchor start) :=
  inferInstanceAs (Decidable (_ ∧ _))

theorem length_slice {α : Type} {xs : List α} {start size : Nat} (h : start + size ≤ xs.length) :
    (slice xs start size).length = size := by
  rw [slice, List.length_take, List.length_drop]
  omega

theorem OccursAt.of_infix {anchor lines : List String} (h : anchor <:+: lines) :
    ∃ start, OccursAt lines anchor start := by
  obtain ⟨before, behind, rfl⟩ := h
  refine ⟨before.length, by simp, ?_⟩
  rw [slice, List.append_assoc, List.drop_left, List.take_left]

theorem mem_starts {total size start : Nat} : start ∈ starts total size ↔ start + size ≤ total := by
  unfold starts
  split_ifs with h
  · rw [List.mem_range]
    omega
  · simp only [List.not_mem_nil, false_iff]
    omega

theorem mem_exactWindows {S : Type} [Score S] {lines anchor : List String} {w : Window S} :
    w ∈ exactWindows lines anchor
      ↔ OccursAt lines anchor w.start ∧ w = ⟨w.start, anchor.length, Score.ofNat 1⟩ := by
  simp only [exactWindows, List.mem_map, List.mem_filter, mem_starts, decide_eq_true_eq]
  constructor
  · rintro ⟨start, hocc, rfl⟩
    exact ⟨hocc, rfl⟩
  · rintro ⟨hocc, hw⟩
    exact ⟨w.start, hocc, hw.symm⟩

theorem score_of_mem_exactWindows {S : Type} [Score S] {lines anchor : List String} {w : Window S}
    (hw : w ∈ exactWindows lines anchor) : w.score = Score.ofNat 1 := by
  rw [(mem_exactWindows.mp hw).2]

theorem size_of_mem_exactWindows {S : Type} [Score S] {lines anchor : List String} {w : Window S}
    (hw : w ∈ exactWindows lines anchor) : w.size = anchor.length := by
  rw [(mem_exactWindows.mp hw).2]

theorem nodup_starts (total size : Nat) : (starts total size).Nodup := by
  unfold starts
  split_ifs
  · exact List.nodup_range
  · exact List.nodup_nil

/-! ### The occurrence that is found -/

/-- How far a line is from the hint. Without a hint none is. -/
def distanceTo (hint : Option Nat) (line : Nat) : Nat :=
  hint.elim 0 (Window.gap line)

theorem hintGap_eq {S : Type} (hint : Option Nat) (w : Window S) :
    w.hintGap hint = distanceTo hint w.start := by
  cases hint <;> rfl

/-- Of all occurrences of `anchor` none is nearer to the hint than the one at `start`, and none that is as
near comes before it. -/
structure IsNearest (lines anchor : List String) (hint : Option Nat) (start : Nat) : Prop where
  occurs : OccursAt lines anchor start
  nearest : ∀ other, OccursAt lines anchor other → distanceTo hint start ≤ distanceTo hint other
  earliest : ∀ other, OccursAt lines anchor other → distanceTo hint other = distanceTo hint start →
    start ≤ other

instance (lines anchor : List String) (hint : Option Nat) (start : Nat) :
    Decidable (IsNearest lines anchor hint start) :=
  decidable_of_iff
    (OccursAt lines anchor start ∧ ∀ other < lines.length + 1, OccursAt lines anchor other →
      distanceTo hint start ≤ distanceTo hint other ∧
        (distanceTo hint other = distanceTo hint start → start ≤ other))
    ⟨fun ⟨hocc, h⟩ => ⟨hocc, fun other hother => (h other (by have := hother.1; omega) hother).1,
        fun other hother => (h other (by have := hother.1; omega) hother).2⟩,
      fun h => ⟨h.occurs, fun other _ hother => ⟨h.nearest other hother, h.earliest other hother⟩⟩⟩

theorem IsNearest.unique {lines anchor : List String} {hint : Option Nat} {start start' : Nat}
    (h : IsNearest lines anchor hint start) (h' : IsNearest lines anchor hint start') : start = start' := by
  have hdistance : distanceTo hint start = distanceTo hint start' :=
    Nat.le_antisymm (h.nearest _ h'.occurs) (h'.nearest _ h.occurs)
  exact Nat.le_antisymm (h.earliest _ h'.occurs hdistance.symm) (h'.earliest _ h.occurs hdistance)

theorem IsNearest.eq_hint {lines anchor : List String} {hint start : Nat}
    (h : IsNearest lines anchor (some hint) start) (hocc : OccursAt lines anchor hint) : start = hint := by
  have hle : Window.gap start hint ≤ Window.gap hint hint := h.nearest _ hocc
  unfold Window.gap at hle
  omega

theorem IsNearest.of_zero {lines anchor : List String} {start : Nat}
    (h : IsNearest lines anchor (some 0) start) : IsNearest lines anchor none start where
  occurs := h.occurs
  nearest _ _ := Nat.le_refl _
  earliest other hother _ := by
    have hle : Window.gap start 0 ≤ Window.gap other 0 := h.nearest _ hother
    unfold Window.gap at hle
    omega

theorem length_apart_exactWindows {S : Type} [Score S] (lines anchor : List String) (best : Window S) :
    ((exactWindows lines anchor).filter (Window.apart best)).length = Set.ncard
      {other | OccursAt lines anchor other ∧ (other + anchor.length ≤ best.start ∨ best.stop ≤ other)} := by
  have hset : {other | OccursAt lines anchor other ∧
        (other + anchor.length ≤ best.start ∨ best.stop ≤ other)}
      = (((starts lines.length anchor.length).filter fun start =>
            slice lines start anchor.length = anchor).filter fun start =>
          decide (best.stop ≤ start) || decide (start + anchor.length ≤ best.start)).toFinset := by
    ext other
    simp only [Set.mem_ofPred_eq, List.coe_toFinset, List.mem_filter, mem_starts, decide_eq_true_eq,
      Bool.or_eq_true, OccursAt]
    exact and_congr_right fun _ => or_comm
  rw [hset, Set.ncard_coe_finset,
    List.toFinset_card_of_nodup (((nodup_starts _ _).filter _).filter _), exactWindows, List.filter_map,
    List.length_map]
  rfl

end Locate

open Locate

/-- What the verbatim search says of the occurrence that it finds. -/
structure Candidate.IsVerbatim {S : Type} (lines anchor : List String)
    (hint : Option Nat) (c : Candidate S) : Prop where
  nearest : IsNearest lines anchor hint c.start
  stop : c.stop = c.start + anchor.length
  strategy : c.strategy = .exact
  alternatives : c.alternatives = Set.ncard
    {other | OccursAt lines anchor other ∧ (other + anchor.length ≤ c.start ∨ c.stop ≤ other)}

namespace Matcher

variable {S : Type} [Score S]

theorem scan_exact (hnear : Score.near (Score.ofNat 1 : S) (Score.ofNat 1) = true) (d : Document)
    {anchor : List String} (hne : anchor ≠ []) (hint : Option Nat) :
    (exact : Matcher S).scan d anchor hint
      = ((exactWindows d.texts anchor).argmin (Window.rank anchor.length hint)).map fun best =>
          let alternatives := ((exactWindows d.texts anchor).filter (Window.apart best)).length
          { candidate :=
              { start := best.start, stop := best.stop
                confidence := confidenceOf best.score (Score.ofNat 1) alternatives
                strategy := .exact, alternatives }
            score := best.score } := by
  have hsize : anchor.length ≠ 0 := fun h => hne (List.length_eq_zero_iff.mp h)
  simp only [scan, if_neg hsize, Window.report?,
    Window.best?_of_score_eq hnear fun w hw => score_of_mem_exactWindows hw, Option.map_map]
  rfl

/-- The verbatim search finds nothing where the anchor does not occur, and else the nearest occurrence. -/
theorem scan_exact_cases (hnear : Score.near (Score.ofNat 1 : S) (Score.ofNat 1) = true) (d : Document)
    {anchor : List String} (hne : anchor ≠ []) (hint : Option Nat) :
    ((exact : Matcher S).scan d anchor hint = none ∧ ∀ start, ¬OccursAt d.texts anchor start) ∨
    ∃ found : Scan S, (exact : Matcher S).scan d anchor hint = some found ∧
      found.candidate.IsVerbatim d.texts anchor hint := by
  have hmem {start : Nat} (hocc : OccursAt d.texts anchor start) :
      (⟨start, anchor.length, Score.ofNat 1⟩ : Window S) ∈ exactWindows d.texts anchor :=
    mem_exactWindows.mpr ⟨hocc, rfl⟩
  rw [scan_exact hnear d hne]
  cases hbest : (exactWindows d.texts anchor).argmin (Window.rank (S := S) anchor.length hint) with
  | none =>
    rw [List.argmin_eq_none] at hbest
    refine .inl ⟨rfl, fun start hocc => ?_⟩
    have := hmem hocc
    rw [hbest] at this
    exact List.not_mem_nil this
  | some best =>
    have hwindow := List.argmin_mem hbest
    have hsize := size_of_mem_exactWindows hwindow
    -- all windows have the size of the anchor, so the rank is the distance and then the start
    have hrank {other : Nat} (hocc : OccursAt d.texts anchor other) :
        distanceTo hint best.start < distanceTo hint other ∨
          distanceTo hint best.start = distanceTo hint other ∧ best.start ≤ other := by
      have hle := List.le_of_mem_argmin (hmem hocc) hbest
      simp only [Window.rank, Prod.Lex.toLex_le_toLex, hintGap_eq, hsize, lt_irrefl, false_or,
        true_and] at hle
      exact hle
    refine .inr ⟨_, rfl, ⟨(mem_exactWindows.mp hwindow).1, fun other hocc => ?_,
      fun other hocc heq => ?_⟩, ?_, rfl, length_apart_exactWindows _ _ best⟩
    · rcases hrank hocc with hlt | ⟨heq, -⟩
      · exact hlt.le
      · exact heq.le
    · rcases hrank hocc with hlt | ⟨-, hle⟩
      · exact absurd heq hlt.ne'
      · exact hle
    · show best.start + best.size = best.start + anchor.length
      rw [hsize]

theorem scan_exact_at_hint (hnear : Score.near (Score.ofNat 1 : S) (Score.ofNat 1) = true)
    (d : Document) {anchor : List String} (hne : anchor ≠ []) {start : Nat}
    (hocc : OccursAt d.texts anchor start) :
    ∃ found : Scan S, (exact : Matcher S).scan d anchor (some start) = some found ∧
      found.candidate.start = start ∧ found.candidate.stop = start + anchor.length ∧
      found.candidate.strategy = .exact := by
  rcases scan_exact_cases hnear d hne (some start) with ⟨-, hnone⟩ | ⟨found, hfound, hverbatim⟩
  · exact absurd hocc (hnone start)
  · have hstart := hverbatim.nearest.eq_hint hocc
    exact ⟨found, hfound, hstart, by rw [hverbatim.stop, hstart], hverbatim.strategy⟩

end Matcher

end TextRepair
