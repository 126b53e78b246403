import TextRepair.Apply
import TextRepair.Proofs.Locate.Tolerance

/-!
# Hints are advice

Main statement, `Options.locate_hints`: over the rationals, whatever hint is given, the same search of the
cascade is the first to accept a span, and it accepts one of the same raw score.

* No search looks at the hint before it has its list of windows. That list stands for all windows that
  the search offers (`Window.StandsFor`): a window that is missing scores lower than one that is there,
  and scores within the tolerance of each other are equal. So the choice is a window of the highest score
  that is offered at all, and the hint has a say only in which one of these it is (`Window.IsChosen`).
* A search accepts a window for its score, so the cascade passes the same searches with every hint.
-/

namespace TextRepair

open Locate

/-! ### Choices from a list that stands for all windows -/

namespace Window

/-- The choice among the windows with property `P`: none of them scores higher, and of those that score
the same none comes before it. -/
structure IsChosen (P : Window Rat → Prop) (anchorSize : Nat) (hint : Option Nat) (w : Window Rat) :
    Prop where
  offered : P w
  top : ∀ v, P v → v.score ≤ w.score
  first : ∀ v, P v → v.score = w.score → w.rank anchorSize hint ≤ v.rank anchorSize hint

theorem IsChosen.score_eq {P : Window Rat → Prop} {anchorSize : Nat} {hint hint' : Option Nat}
    {w w' : Window Rat} (h : IsChosen P anchorSize hint w) (h' : IsChosen P anchorSize hint' w') :
    w.score = w'.score := by
  apply le_antisymm
  · exact h'.top w h.offered
  · exact h.top w' h'.offered

/-- A list from which one may choose as if it had all windows with property `P`. -/
structure StandsFor (P : Window Rat → Prop) (ws : List (Window Rat)) : Prop where
  sound : ∀ w ∈ ws, P w
  isolated : ∀ v ∈ ws, ∀ w ∈ ws, Score.near v.score w.score = true → v.score = w.score
  best : ∀ v, P v → v ∈ ws ∨ ∃ w ∈ ws, v.score < w.score

theorem StandsFor.congr {P Q : Window Rat → Prop} {ws : List (Window Rat)} (h : StandsFor P ws)
    (hiff : ∀ w, P w ↔ Q w) : StandsFor Q ws where
  sound w hw := (hiff w).mp (h.sound w hw)
  isolated := h.isolated
  best v hv := h.best v ((hiff v).mpr hv)

theorem StandsFor.report?_cases {P : Window Rat → Prop} {ws : List (Window Rat)} (h : StandsFor P ws)
    (anchorSize : Nat) (hint : Option Nat) (strategy : Strategy) (cap : Rat) :
    (report? ws anchorSize hint strategy cap = none ∧ ∀ w, ¬P w) ∨
      ∃ w c, report? ws anchorSize hint strategy cap = some ⟨c, w.score⟩ ∧
        IsChosen P anchorSize hint w ∧ c.start = w.start ∧ c.stop = w.stop ∧ c.strategy = strategy := by
  cases hmax : (ws.map Window.score).max? with
  | none =>
    have hnil : ws = [] := List.map_eq_nil_iff.mp (List.max?_eq_none_iff.mp hmax)
    subst hnil
    refine Or.inl ⟨rfl, ?_⟩
    intro w hw
    rcases h.best w hw with hmem | ⟨v, hv, -⟩
    · exact List.not_mem_nil hmem
    · exact List.not_mem_nil hv
  | some top =>
    obtain ⟨hreached, hle⟩ := List.max?_eq_some_iff.mp hmax
    obtain ⟨t, ht, rfl⟩ := List.mem_map.mp hreached
    have hle : ∀ w ∈ ws, w.score ≤ t.score := fun w hw => hle _ (List.mem_map_of_mem hw)
    rw [report?, best?_of_isolated (fun w hw hnear => h.isolated w hw t ht hnear) hle ⟨t, ht, rfl⟩]
    cases hbest : (ws.filter fun w => w.score = t.score).argmin (rank anchorSize hint) with
    | none =>
      have hties := List.argmin_eq_none.mp hbest
      have htie : t ∈ ws.filter fun w => w.score = t.score := by simp [ht]
      rw [hties] at htie
      exact absurd htie List.not_mem_nil
    | some best =>
      obtain ⟨hmem, hscore⟩ := List.mem_filter.mp (List.argmin_mem hbest)
      have hscore : best.score = t.score := of_decide_eq_true hscore
      refine Or.inr ⟨best, _, rfl, ⟨h.sound best hmem, ?_, ?_⟩, rfl, rfl, rfl⟩
      · intro v hv
        rw [hscore]
        rcases h.best v hv with hv | ⟨w, hw, hlt⟩
        · exact hle v hv
        · exact hlt.le.trans (hle w hw)
      · intro v hv heq
        rcases h.best v hv with hv | ⟨w, hw, hlt⟩
        · apply List.le_of_mem_argmin _ hbest
          rw [List.mem_filter, heq, hscore]
          exact ⟨hv, decide_eq_true rfl⟩
        · have := hle w hw
          rw [heq, hscore] at hlt
          exact absurd hlt this.not_gt

end Window

/-! ### The lists of the searches -/

namespace Locate

theorem standsFor_exactWindows (lines anchor : List String) :
    Window.StandsFor
      (fun w => OccursAt lines anchor w.start ∧ w = ⟨w.start, anchor.length, 1⟩)
      (exactWindows lines anchor) where
  sound w hw := by simpa using mem_exactWindows.mp hw
  isolated v hv w hw _ := by rw [score_of_mem_exactWindows hv, score_of_mem_exactWindows hw]
  best v hv := Or.inl (mem_exactWindows.mpr (by simpa using hv))

theorem blankScore_eq_of_near {lines anchor : List String} (hpos : 0 < anchor.length)
    (hanchor : anchor.length < 10 ^ 8) {start start' : Nat}
    (hnear : Score.near (blankScore Rat lines anchor start) (blankScore Rat lines anchor start') = true) :
    blankScore Rat lines anchor start = blankScore Rat lines anchor start' := by
  unfold blankScore at hnear ⊢
  generalize differing (slice lines start anchor.length) anchor = k at hnear ⊢
  generalize differing (slice lines start' anchor.length) anchor = k' at hnear ⊢
  have hnpos : (0 : Rat) < anchor.length := Nat.cast_pos.mpr hpos
  have hnlt : (anchor.length : Rat) < 10 ^ 8 := by exact_mod_cast hanchor
  rw [Score.near_rat, Score.decimal_rat] at hnear
  simp only [Score.ofNat_rat, Nat.cast_one] at hnear
  have hscaled : (k' : Rat) / anchor.length - k / anchor.length = ((k' : Rat) - k) / anchor.length := by
    rw [sub_div]
  have hlines : ((k' : Rat) - k) / anchor.length * anchor.length = k' - k :=
    div_mul_cancel₀ _ hnpos.ne'
  obtain ⟨hlow, hhigh⟩ := abs_le.mp hnear
  have hless : (k' : Rat) - k < 1 := by
    have : ((k' : Rat) - k) / anchor.length ≤ 1 / 10 ^ 8 := by linarith
    have := mul_le_mul_of_nonneg_right this hnpos.le
    linarith
  have hmore : -1 < (k' : Rat) - k := by
    have : -(1 / 10 ^ 8) ≤ ((k' : Rat) - k) / anchor.length := by linarith
    have := mul_le_mul_of_nonneg_right this hnpos.le
    linarith
  have hle : k' ≤ k := Nat.lt_succ_iff.mp (by exact_mod_cast (by linarith : (k' : Rat) < k + 1))
  have hge : k ≤ k' := Nat.lt_succ_iff.mp (by exact_mod_cast (by linarith : (k : Rat) < k' + 1))
  rw [le_antisymm hle hge]

theorem standsFor_blankWindows (lines : List String) {anchor : List String} (hpos : 0 < anchor.length)
    (hanchor : anchor.length < 10 ^ 8) :
    Window.StandsFor
      (fun w => w.start + anchor.length ≤ lines.length ∧
        (slice lines w.start anchor.length).map normalized = anchor.map normalized ∧
        w = ⟨w.start, anchor.length, blankScore Rat lines anchor w.start⟩)
      (blankWindows lines anchor) where
  sound w hw := mem_blankWindows.mp hw
  isolated v hv w hw hnear := by
    rw [(mem_blankWindows.mp hv).2.2, (mem_blankWindows.mp hw).2.2] at hnear ⊢
    exact blankScore_eq_of_near hpos hanchor hnear
  best v hv := Or.inl (mem_blankWindows.mpr hv)

theorem Sieve.Holds.standsFor {ws : List (Window Rat)} {sieve : Sieve Rat} (h : sieve.Holds ws)
    (hfraction : ∀ w ∈ ws, Score.IsFraction w.score) (hnonneg : ∀ w ∈ ws, 0 ≤ w.score) :
    Window.StandsFor (· ∈ ws) sieve.kept.reverse where
  sound w hw := h.subset w (List.mem_reverse.mp hw)
  isolated v hv w hw hnear := by
    have hv := hfraction v (h.subset v (List.mem_reverse.mp hv))
    have hw := hfraction w (h.subset w (List.mem_reverse.mp hw))
    exact (Score.near_iff_eq hv hw).mp hnear
  best v hv := by
    have hties := h.kept sieve.floor le_rfl
    have hkept : ∀ w ∈ ws, w.score = sieve.floor → w ∈ sieve.kept.reverse := by
      intro w hw hscore
      have htie : w ∈ ws.filter fun w => w.score = sieve.floor :=
        List.mem_filter.mpr ⟨hw, decide_eq_true hscore⟩
      rw [← hties] at htie
      exact (List.mem_filter.mp htie).1
    rcases (h.le_floor v hv).lt_or_eq with hlt | heq
    · obtain ⟨w, hw, hscore⟩ := h.exists_score_eq_floor (List.ne_nil_of_mem hv) hnonneg
      exact Or.inr ⟨w, hkept w hw hscore, by rwa [hscore]⟩
    · exact Or.inl (hkept v hv heq)

theorem standsFor_similarWindows {blocks : Bool} {lines : List (List Char)} {wanted : List Char}
    {least most : Nat} (hwanted : wanted.length < 31000)
    (htext : ∀ span ∈ spans lines.length least most, isVisited blocks lines span = true →
      (windowText blocks (slice lines span.1 span.2)).length < 31000) :
    Window.StandsFor (· ∈ trueWindows blocks lines wanted (spans lines.length least most))
      (similarWindows blocks lines wanted least most) := by
  obtain ⟨sieve, hkept, hsieve⟩ := holds_similarWindows hwanted htext
  rw [hkept]
  apply hsieve.standsFor
  · intro w hw
    exact isFraction_of_mem_trueWindows hwanted htext hw
  · intro w hw
    exact nonneg_of_mem_trueWindows hw

end Locate

/-! ### One search with several hints -/

namespace Matcher

/-- The windows from which a search chooses, each with its raw score. -/
def Offers (m : Matcher Rat) (d : Document) (anchor : List String) (w : Window Rat) : Prop :=
  match m with
  | exact => anchor ≠ [] ∧ OccursAt d.texts anchor w.start ∧ w = ⟨w.start, anchor.length, 1⟩
  | blanks =>
    anchor ≠ [] ∧ w.start + anchor.length ≤ d.texts.length ∧
      (slice d.texts w.start anchor.length).map normalized = anchor.map normalized ∧
      w = ⟨w.start, anchor.length, blankScore Rat d.texts anchor w.start⟩
  | approximate .. | intent _ => m.IsWindow d anchor w

/-- A search by similarity has only texts of fewer than 31000 characters to compare. -/
def HasShortTexts (m : Matcher Rat) (d : Document) (anchor : List String) : Prop :=
  m.strategy = .approximate ∨ m.strategy = .intent →
    (m.comparedText anchor).length < 31000 ∧
      ∀ w, m.IsWindow d anchor w → (m.comparedText (slice d.texts w.start w.size)).length < 31000

/-- Every search chooses from a list that it makes without the hint and that stands for all windows on
offer. -/
theorem scan_eq_report? {m : Matcher Rat} {d : Document} {anchor : List String}
    (hanchor : anchor.length < 10 ^ 8) (hshort : m.HasShortTexts d anchor) :
    ∃ ws cap, Window.StandsFor (m.Offers d anchor) ws ∧
      ∀ hint, m.scan d anchor hint = Window.report? ws anchor.length hint m.strategy cap := by
  -- Without a line to look for there are no windows, and the empty list stands for them.
  have hempty (hnone : ∀ w, ¬m.Offers d anchor w) (hscan : ∀ hint, m.scan d anchor hint = none) :
      ∃ ws cap, Window.StandsFor (m.Offers d anchor) ws ∧
        ∀ hint, m.scan d anchor hint = Window.report? ws anchor.length hint m.strategy cap :=
    ⟨[], Score.inexactCap, ⟨nofun, nofun, fun w hw => absurd hw (hnone w)⟩, hscan⟩
  cases m with
  | exact =>
    by_cases hne : anchor = []
    · exact hempty (fun w hw => hw.1 hne) fun hint => if_pos (List.length_eq_zero_iff.mpr hne)
    refine ⟨_, Score.ofNat 1, (standsFor_exactWindows d.texts anchor).congr ?_, fun hint => ?_⟩
    · exact fun w => (and_iff_right hne).symm
    · exact if_neg (mt List.length_eq_zero_iff.mp hne)
  | blanks =>
    by_cases hne : anchor = []
    · exact hempty (fun w hw => hw.1 hne) fun hint => if_pos (List.length_eq_zero_iff.mpr hne)
    have hpos := List.length_pos_iff.mpr hne
    refine ⟨_, Score.blankCap, (standsFor_blankWindows d.texts hpos hanchor).congr ?_, fun hint => ?_⟩
    · exact fun w => (and_iff_right hne).symm
    · exact if_neg (mt List.length_eq_zero_iff.mp hne)
  | approximate threshold slack =>
    by_cases hne : anchor = []
    · exact hempty (fun w hw => hw.size.1 hne) fun hint => if_pos (List.length_eq_zero_iff.mpr hne)
    obtain ⟨hwanted, hwindows⟩ := hshort (Or.inl rfl)
    refine ⟨_, Score.inexactCap, (standsFor_similarWindows hwanted ?_).congr fun w => mem_approximate hne,
      fun hint => if_neg (mt List.length_eq_zero_iff.mp hne)⟩
    intro span hspan hvisited
    rw [windowText_approximate threshold slack]
    exact hwindows (trueWindow false _ _ span)
      ((mem_approximate hne).mp (mem_trueWindows.mpr ⟨hspan, hvisited, rfl⟩))
  | intent threshold =>
    by_cases hne : visibleLines anchor = []
    · refine hempty (fun w hw => ?_) fun hint => ?_
      · have hsize := hw.size.2
        rw [hne] at hsize
        exact absurd hw.pos (by simpa using hsize)
      · rw [scan, filter_map_folded, hne]
        rfl
    obtain ⟨hwanted, hwindows⟩ := hshort (Or.inr rfl)
    refine ⟨_, Score.inexactCap, (standsFor_similarWindows hwanted ?_).congr fun w => mem_intent hne,
      fun hint => ?_⟩
    · intro span hspan hvisited
      rw [windowText_intent threshold]
      exact hwindows (trueWindow true _ _ span)
        ((mem_intent hne).mp (mem_trueWindows.mpr ⟨hspan, hvisited, rfl⟩))
    · rw [scan, filter_map_folded, if_neg (by simpa using hne), List.length_map]
      rfl

/-- With this hint a search reports the window `w`, which it has chosen among all that it offers, as the
candidate `c`. -/
structure Finds (m : Matcher Rat) (d : Document) (anchor : List String) (hint : Option Nat)
    (w : Window Rat) (c : Candidate Rat) : Prop where
  scan : m.scan d anchor hint = some ⟨c, w.score⟩
  chosen : Window.IsChosen (m.Offers d anchor) anchor.length hint w
  start : c.start = w.start
  stop : c.stop = w.stop
  strategy : c.strategy = m.strategy

theorem scan_hints {m : Matcher Rat} {d : Document} {anchor : List String}
    (hanchor : anchor.length < 10 ^ 8) (hshort : m.HasShortTexts d anchor) (hint hint' : Option Nat) :
    (m.scan d anchor hint = none ∧ m.scan d anchor hint' = none) ∨
      ∃ w w' c c', m.Finds d anchor hint w c ∧ m.Finds d anchor hint' w' c' ∧ w.score = w'.score := by
  obtain ⟨ws, cap, hstands, hscan⟩ := scan_eq_report? hanchor hshort
  have hcases (hint : Option Nat) : (m.scan d anchor hint = none ∧ ∀ w, ¬m.Offers d anchor w) ∨
      ∃ w c, m.Finds d anchor hint w c := by
    rw [hscan]
    rcases hstands.report?_cases anchor.length hint m.strategy cap with
      hnone | ⟨w, c, hfound, hchosen, hstart, hstop, hstrategy⟩
    · exact Or.inl hnone
    · exact Or.inr ⟨w, c, (hscan hint).trans hfound, hchosen, hstart, hstop, hstrategy⟩
  rcases hcases hint with ⟨hnone, hoffers⟩ | ⟨w, c, hfinds⟩
  · rcases hcases hint' with ⟨hnone', -⟩ | ⟨w', c', hfinds'⟩
    · exact Or.inl ⟨hnone, hnone'⟩
    · exact absurd hfinds'.chosen.offered (hoffers w')
  · rcases hcases hint' with ⟨-, hoffers'⟩ | ⟨w', c', hfinds'⟩
    · exact absurd hfinds.chosen.offered (hoffers' w)
    · exact Or.inr ⟨w, w', c, c', hfinds, hfinds', hfinds.chosen.score_eq hfinds'.chosen⟩

end Matcher

/-! ### The cascade with several hints -/

namespace Options

section Cascade

variable {S : Type} [Score S] {d : Document} {h : Hunk} {hint : Option Nat} {m : Matcher S}
  {found : Scan S}

theorem locateWith_of_accepted (rest : List (Matcher S)) (hscan : m.scan d h.anchor hint = some found)
    (haccepts : m.accepts found.score = true) :
    (locateWith d h hint (m :: rest)).1 = some found.candidate := by
  have hfilter : (some found).filter (fun s => m.accepts s.score) = some found := by
    rw [Option.filter_some, if_pos haccepts]
  simp only [locateWith, hscan, hfilter]

theorem locateWith_of_passed (rest : List (Matcher S))
    (hpassed : ∀ found, m.scan d h.anchor hint = some found → m.accepts found.score = false) :
    (locateWith d h hint (m :: rest)).1 = (locateWith d h hint rest).1 := by
  have hfilter : (m.scan d h.anchor hint).filter (fun s => m.accepts s.score) = none := by
    rw [Option.filter_eq_none_iff]
    intro found hfound
    rw [hpassed found hfound]
    exact Bool.false_ne_true
  simp only [locateWith, hfilter]

end Cascade

theorem locateWith_hints {d : Document} {h : Hunk} (hanchor : h.anchor.length < 10 ^ 8)
    (hint hint' : Option Nat) (ms : List (Matcher Rat))
    (hshort : ∀ m ∈ ms, m.HasShortTexts d h.anchor) :
    ((locateWith d h hint ms).1 = none ∧ (locateWith d h hint' ms).1 = none) ∨
      ∃ m ∈ ms, ∃ w w' c c', m.Finds d h.anchor hint w c ∧ m.Finds d h.anchor hint' w' c' ∧
        w.score = w'.score ∧ m.accepts w.score = true ∧
        (locateWith d h hint ms).1 = some c ∧ (locateWith d h hint' ms).1 = some c' := by
  induction ms with
  | nil => exact Or.inl ⟨rfl, rfl⟩
  | cons m rest ih =>
    have ih := ih fun m' hm' => hshort m' (List.mem_cons_of_mem _ hm')
    by_cases hpassed : ∀ hint found, m.scan d h.anchor hint = some found → m.accepts found.score = false
    · rw [locateWith_of_passed rest (hpassed hint), locateWith_of_passed rest (hpassed hint')]
      rcases ih with hnone | ⟨m', hm', hfound⟩
      · exact Or.inl hnone
      · exact Or.inr ⟨m', List.mem_cons_of_mem m hm', hfound⟩
    · simp only [not_forall, Bool.not_eq_false] at hpassed
      obtain ⟨other, found, hscan, haccepts⟩ := hpassed
      have hreported (hint : Option Nat) : ∃ w c, m.Finds d h.anchor hint w c ∧ m.accepts w.score = true := by
        rcases Matcher.scan_hints hanchor (hshort m List.mem_cons_self) other hint with
          ⟨hnone, -⟩ | ⟨v, w, _, c, hother, hfinds, hscore⟩
        · rw [hnone] at hscan
          cases hscan
        · obtain rfl : _ = found := Option.some.inj (hother.scan.symm.trans hscan)
          refine ⟨w, c, hfinds, ?_⟩
          rw [← hscore]
          exact haccepts
      obtain ⟨w, c, hfinds, haccepts⟩ := hreported hint
      obtain ⟨w', c', hfinds', haccepts'⟩ := hreported hint'
      exact Or.inr ⟨m, List.mem_cons_self, w, w', c, c', hfinds, hfinds',
        hfinds.chosen.score_eq hfinds'.chosen, haccepts, locateWith_of_accepted rest hfinds.scan haccepts,
        locateWith_of_accepted rest hfinds'.scan haccepts'⟩

/-- Whatever hint is given, the cascade finds nothing, or the same search accepts a window of the same raw
score; the hint only chooses among the windows with the highest score of all that this search offers. -/
theorem locate_hints (o : Options Rat) (d : Document) (h : Hunk) (hanchor : h.anchor.length < 10 ^ 8)
    (hshort : ∀ m ∈ o.matchers, m.HasShortTexts d h.anchor) (hint hint' : Option Nat) :
    ((o.locate d h hint).1 = none ∧ (o.locate d h hint').1 = none) ∨
      ∃ m ∈ o.matchers, ∃ w w' c c', m.Finds d h.anchor hint w c ∧ m.Finds d h.anchor hint' w' c' ∧
        w.score = w'.score ∧ m.accepts w.score = true ∧
        (o.locate d h hint).1 = some c ∧ (o.locate d h hint').1 = some c' := by
  unfold locate
  exact locateWith_hints hanchor hint hint' o.matchers hshort

/-- A line that is one character off stands twice, and each hint takes the one that is near it. -/
theorem locate_hints_twoValues :
    let o : Options Rat := { Options.standard with order := [.exact, .approximate], windowSlack := 1 }
    let d := Document.mk [⟨"size = 1", .lf⟩, ⟨"rest", .lf⟩, ⟨"size = 1", .lf⟩]
    let h := Hunk.replacing ["size = 2"] ["size = 3"]
    (o.locate d h (some 0)).1.map Candidate.start = some 0 ∧
      (o.locate d h (some 2)).1.map Candidate.start = some 2 ∧
      ∃ m ∈ o.matchers, ∃ w w' c c', m.Finds d h.anchor (some 0) w c ∧ m.Finds d h.anchor (some 2) w' c' ∧
        w.score = w'.score ∧ m.accepts w.score = true ∧
        (o.locate d h (some 0)).1 = some c ∧ (o.locate d h (some 2)).1 = some c' := by
  intro o d h
  have hfirst : (o.locate d h (some 0)).1.map Candidate.start = some 0 := by decide +kernel
  have hsecond : (o.locate d h (some 2)).1.map Candidate.start = some 2 := by decide +kernel
  have hmatchers : o.matchers = [.exact, .approximate (Score.decimal 8 1) 1] := rfl
  have hshort : ∀ m ∈ o.matchers, m.HasShortTexts d h.anchor := by
    intro m hm hsimilar
    have hm : m = .exact ∨ m = .approximate (Score.decimal 8 1) 1 := by simpa [hmatchers] using hm
    rcases hm with rfl | rfl
    · rcases hsimilar with hsimilar | hsimilar <;> cases hsimilar
    · have hlength : ∀ start < 4, ∀ size < 4, ((Matcher.approximate (Score.decimal 8 1 : Rat) 1).comparedText
          (slice d.texts start size)).length < 31000 := by decide
      refine ⟨by decide, fun w hw => ?_⟩
      have hinside : w.start + w.size ≤ 3 := hw.inside
      exact hlength _ (by omega) _ (by omega)
  refine ⟨hfirst, hsecond, ?_⟩
  rcases locate_hints o d h (by decide) hshort (some 0) (some 2) with ⟨hnone, -⟩ | hfound
  · rw [hnone] at hfirst
    cases hfirst
  · exact hfound

end Options

end TextRepair
