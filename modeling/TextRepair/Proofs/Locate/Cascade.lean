import TextRepair.Apply
import TextRepair.Proofs.Locate.Tolerance
import TextRepair.Proofs.Score.Near

/-!
# The cascade

Main statement, `Options.locate_cascade`: by settings that are not refused, a hunk goes where the first strategy of
the order that accepts a span by itself puts it, and the attempts are what each strategy up to that one reaches by
itself. If no strategy accepts a span, all of them have made their attempt, and the report on the hunk names the
first attempt among those with the highest confidence.

* Settings that are not refused have a search for every strategy of their order (`exists_matcher`), so none is
  passed over when the searches are set up (`locateWith_matchers`).
* Confidences are finite, whatever the scores are (`Matcher.isFinite_confidence`): a score that is not finite is
  near no other one, and only scores near the highest one are chosen from. So confidences are compared like
  rational numbers, and a pass that keeps the best one so far ends with the first one that is best of all
  (`HunkReport.isFirstBest_foldl`).
-/

namespace TextRepair

open Locate

/-! ### Confidences are finite -/

theorem Score.isFinite_confidenceOf {raw cap : Float} (hraw : raw.isFinite = true) (hcap : cap.isFinite = true)
    (alternatives : Nat) : (confidenceOf raw cap alternatives).isFinite = true := by
  have hleast : (Score.least raw cap).isFinite = true := by
    unfold Score.least
    split_ifs <;> assumption
  obtain ⟨hfinite, hle⟩ := Score.clamp_mem hleast
  have hfactor : Score.Within (-53) Score.ambiguityFactor :=
    .inr ⟨.positive, 0x1e666666666666, -53, by decide, rfl, by decide, by decide⟩
  unfold confidenceOf
  split_ifs
  · exact (Score.within_mul (Score.within_of_abs_value_le hfinite hle) hfactor (by decide) (by decide)).isFinite
  · exact hfinite

theorem Window.near_of_best? {S : Type} [Score S] {ws : List (Window S)} {anchorSize : Nat} {hint : Option Nat}
    {w : Window S} {alternatives : Nat} (hbest : best? ws anchorSize hint = some (w, alternatives)) :
    ∃ top, Score.near w.score top = true := by
  unfold best? at hbest
  split at hbest
  · cases hbest
  · obtain ⟨v, hv, heq⟩ := Option.map_eq_some_iff.mp hbest
    cases heq
    rw [first?_eq_argmin] at hv
    exact ⟨_, (List.mem_filter.mp (List.argmin_mem hv)).2⟩

theorem Window.isFinite_report? {ws : List (Window Float)} {anchorSize : Nat} {hint : Option Nat}
    {strategy : Strategy} {cap : Float} (hcap : cap.isFinite = true) {found : Scan Float}
    (hreport : report? ws anchorSize hint strategy cap = some found) :
    found.candidate.confidence.isFinite = true := by
  obtain ⟨⟨w, alternatives⟩, hbest, rfl⟩ := Option.map_eq_some_iff.mp hreport
  obtain ⟨top, hnear⟩ := near_of_best? hbest
  exact Score.isFinite_confidenceOf (Score.isFinite_of_near hnear) hcap alternatives

theorem Matcher.isFinite_confidence {m : Matcher Float} {d : Document} {anchor : List String} {hint : Option Nat}
    {found : Scan Float} (hscan : m.scan d anchor hint = some found) :
    found.candidate.confidence.isFinite = true := by
  cases m with
  | exact =>
    simp only [scan] at hscan
    split_ifs at hscan
    exact Window.isFinite_report? rfl hscan
  | blanks =>
    simp only [scan] at hscan
    split_ifs at hscan
    exact Window.isFinite_report? rfl hscan
  | approximate threshold slack =>
    simp only [scan] at hscan
    split_ifs at hscan
    exact Window.isFinite_report? rfl hscan
  | intent threshold =>
    simp only [scan] at hscan
    split_ifs at hscan
    exact Window.isFinite_report? rfl hscan

/-! ### The best attempt -/

namespace HunkReport

/-- The first of some attempts with the highest confidence among those that found a span; none if none did. -/
inductive IsFirstBest {S : Type} [Score S] : List (Attempt S) → Option (Strategy × S) → Prop
  | nothing {attempts} (hnone : ∀ a ∈ attempts, a.confidence = none) : IsFirstBest attempts none
  | best {before after s c} (hbefore : ∀ a ∈ before, ∀ x ∈ a.confidence, Score.lt x c = true)
      (hafter : ∀ a ∈ after, ∀ x ∈ a.confidence, Score.le x c = true) :
      IsFirstBest (before ++ ⟨s, some c⟩ :: after) (some (s, c))

theorem IsFirstBest.append {attempts : List (Attempt Float)} {best : Option (Strategy × Float)}
    (h : IsFirstBest attempts best) (a : Attempt Float)
    (hfinite : ∀ b ∈ attempts ++ [a], ∀ x ∈ b.confidence, x.isFinite = true) :
    IsFirstBest (attempts ++ [a]) (better best a) := by
  obtain ⟨s', confidence⟩ := a
  cases h with
  | nothing hnone =>
    cases confidence with
    | none => exact .nothing (List.forall_mem_append.mpr ⟨hnone, by simp⟩)
    | some c' =>
      refine .best (fun a ha x hx => ?_) (by simp)
      rw [hnone a ha] at hx
      cases hx
  | @best before after s c hbefore hafter =>
    rw [List.append_assoc, List.cons_append] at hfinite ⊢
    have hc : c.isFinite = true := hfinite ⟨s, some c⟩ (by simp) c rfl
    cases confidence with
    | none => exact .best hbefore (List.forall_mem_append.mpr ⟨hafter, by simp⟩)
    | some c' =>
      have hc' : c'.isFinite = true := hfinite ⟨s', some c'⟩ (by simp) c' rfl
      simp only [better]
      by_cases hle : Score.le c' c = true
      · rw [if_pos hle]
        exact .best hbefore (List.forall_mem_append.mpr ⟨hafter, by simpa using hle⟩)
      · rw [if_neg hle, ← List.cons_append, ← List.append_assoc]
        refine .best (fun a ha x hx => ?_) (by simp)
        -- the new attempt is above the best one so far, and so above all before it
        have hlt : Score.value c < Score.value c' := by
          rw [Score.le_iff_value_le hc' hc] at hle
          exact not_le.mp hle
        have hx' := hfinite a (by simp at ha ⊢; tauto) x hx
        rw [Score.lt_iff_value_lt hx' hc']
        rcases List.mem_append.mp ha with ha | ha
        · exact ((Score.lt_iff_value_lt hx' hc).mp (hbefore a ha x hx)).trans hlt
        · rcases List.mem_cons.mp ha with rfl | ha
          · obtain rfl := Option.some.inj hx
            exact hlt
          · exact ((Score.le_iff_value_le hx' hc).mp (hafter a ha x hx)).trans_lt hlt

theorem isFirstBest_foldl {attempts : List (Attempt Float)}
    (hfinite : ∀ a ∈ attempts, ∀ x ∈ a.confidence, x.isFinite = true) :
    IsFirstBest attempts (attempts.foldl better none) := by
  induction attempts using List.reverseRecOn with
  | nil => exact .nothing (by simp)
  | append_singleton attempts a ih =>
    rw [List.foldl_append, List.foldl_cons, List.foldl_nil]
    exact (ih fun b hb => hfinite b (List.mem_append_left _ hb)).append a hfinite

end HunkReport

/-! ### Strategies by themselves -/

namespace Options

section

variable {S : Type} [Score S]

/-- The best span that a strategy finds with its settings, accepted or not. -/
def scanBy (o : Options S) (d : Document) (anchor : List String) (hint : Option Nat) (s : Strategy) :
    Option (Scan S) :=
  (o.matcher? s).bind fun m => m.scan d anchor hint

/-- The span that a strategy accepts with its settings. -/
def locateBy (o : Options S) (d : Document) (anchor : List String) (hint : Option Nat) (s : Strategy) :
    Option (Candidate S) :=
  (o.matcher? s).bind fun m => m.locate d anchor hint

/-- What a strategy reaches by itself. -/
def attemptBy (o : Options S) (d : Document) (anchor : List String) (hint : Option Nat) (s : Strategy) :
    Attempt S :=
  ⟨s, (o.scanBy d anchor hint s).map fun found => found.candidate.confidence⟩

theorem attemptBy_of_locateBy {o : Options S} {d : Document} {anchor : List String} {hint : Option Nat}
    {s : Strategy} {c : Candidate S} (hlocate : o.locateBy d anchor hint s = some c) :
    o.attemptBy d anchor hint s = ⟨s, some c.confidence⟩ := by
  obtain ⟨m, hm, hlocate⟩ := Option.bind_eq_some_iff.mp hlocate
  obtain ⟨found, hscan, -, rfl⟩ := Matcher.locate_eq_some hlocate
  rw [attemptBy, scanBy, hm, Option.bind_some, hscan, Option.map_some]

omit [Score S] in
theorem strategy_of_matcher? {o : Options S} {s : Strategy} {m : Matcher S} (hm : o.matcher? s = some m) :
    m.strategy = s := by
  cases s <;> cases hm <;> rfl

omit [Score S] in
theorem exists_matcher_of_checkOrder (o : Options S) {earlier order : List Strategy}
    (hcheck : checkOrder (S := S) earlier order = .ok ()) : ∀ s ∈ order, ∃ m, o.matcher? s = some m := by
  induction order generalizing earlier with
  | nil => exact fun _ hs => absurd hs List.not_mem_nil
  | cons s rest ih =>
    unfold checkOrder at hcheck
    split_ifs at hcheck with hlocates
    intro t ht
    rcases List.mem_cons.mp ht with rfl | ht
    · cases t with
      | insertion => exact absurd rfl hlocates
      | exact => exact ⟨_, rfl⟩
      | blanks => exact ⟨_, rfl⟩
      | approximate => exact ⟨_, rfl⟩
      | intent => exact ⟨_, rfl⟩
    · exact ih hcheck t ht

theorem exists_matcher {o : Options S} (hvalid : o.check = .ok ()) : ∀ s ∈ o.order, ∃ m, o.matcher? s = some m := by
  refine o.exists_matcher_of_checkOrder (show checkOrder (S := S) [] o.order = .ok () from ?_)
  unfold check at hvalid
  simp only [bind, Except.bind] at hvalid
  split_ifs at hvalid <;> cases horder : checkOrder (S := S) [] o.order <;> rw [horder] at hvalid <;>
    first | rfl | cases hvalid

theorem locateWith_matchers (o : Options S) (d : Document) (h : Hunk) (hint : Option Nat) {order : List Strategy}
    (hall : ∀ s ∈ order, ∃ m, o.matcher? s = some m) :
    (∃ before s after c, order = before ++ s :: after ∧
      (∀ t ∈ before, o.locateBy d h.anchor hint t = none) ∧ o.locateBy d h.anchor hint s = some c ∧
      locateWith d h hint (order.filterMap o.matcher?)
        = (some c, (before ++ [s]).map (o.attemptBy d h.anchor hint))) ∨
    (∀ t ∈ order, o.locateBy d h.anchor hint t = none) ∧
      locateWith d h hint (order.filterMap o.matcher?) = (none, order.map (o.attemptBy d h.anchor hint)) := by
  induction order with
  | nil => exact .inr ⟨by simp, rfl⟩
  | cons s rest ih =>
    obtain ⟨m, hm⟩ := hall s List.mem_cons_self
    have ih := ih fun t ht => hall t (List.mem_cons_of_mem s ht)
    have hattempt : o.attemptBy d h.anchor hint s
        = ⟨m.strategy, (m.scan d h.anchor hint).map fun found => found.candidate.confidence⟩ := by
      rw [attemptBy, scanBy, hm, strategy_of_matcher? hm]
      rfl
    have hlocate : o.locateBy d h.anchor hint s = m.locate d h.anchor hint := by
      rw [locateBy, hm]
      rfl
    rw [List.filterMap_cons_some hm]
    simp only [locateWith]
    cases haccepted : (m.scan d h.anchor hint).filter fun found => m.accepts found.score with
    | some found =>
      refine .inl ⟨[], s, rest, found.candidate, rfl, by simp, ?_, ?_⟩
      · rw [hlocate, Matcher.locate, haccepted]
        rfl
      · rw [List.nil_append, List.map_singleton, hattempt]
    | none =>
      have hnone : o.locateBy d h.anchor hint s = none := by
        rw [hlocate, Matcher.locate, haccepted]
        rfl
      rcases ih with ⟨before, t, after, c, rfl, hbefore, ht, hrest⟩ | ⟨hrest, hnothing⟩
      · refine .inl ⟨s :: before, t, after, c, rfl, List.forall_mem_cons.mpr ⟨hnone, hbefore⟩, ht, ?_⟩
        rw [hrest, List.cons_append, List.map_cons, hattempt]
      · refine .inr ⟨List.forall_mem_cons.mpr ⟨hnone, hrest⟩, ?_⟩
        rw [hnothing, List.map_cons, hattempt]

end

/-- The first strategy of the order that accepts a span by itself decides, after an attempt of each strategy up to
it. If there is none, each strategy has made its attempt, and where the hunk is applied the report on it names the
first attempt with the highest confidence. -/
theorem locate_cascade (o : Options Float) (d : Document) (h : Hunk) (hint : Option Nat)
    (hvalid : o.check = .ok ()) (hanchor : h.anchor ≠ []) :
    (∃ before s after c, o.order = before ++ s :: after ∧
      (∀ t ∈ before, o.locateBy d h.anchor hint t = none) ∧ o.locateBy d h.anchor hint s = some c ∧
      o.locate d h hint = (some c, (before ++ [s]).map (o.attemptBy d h.anchor hint))) ∨
    (∀ t ∈ o.order, o.locateBy d h.anchor hint t = none) ∧
      o.locate d h hint = (none, o.order.map (o.attemptBy d h.anchor hint)) ∧
      ∀ p : Progress Float, p.document = d → h.hint.map (shiftLine · p.shifts) = hint →
        ∃ (r : HunkReport Float) (best : Option (Strategy × Float)), (p.step o h).reports = p.reports ++ [r] ∧
          r.matched = false ∧ r.attempts = o.order.map (o.attemptBy d h.anchor hint) ∧
          r.failure = some ⟨best.map Prod.fst, best.map Prod.snd⟩ ∧ HunkReport.IsFirstBest r.attempts best := by
  rcases o.locateWith_matchers d h hint (exists_matcher hvalid) with hfound | ⟨hnone, hlocate⟩
  · exact .inl hfound
  refine .inr ⟨hnone, hlocate, ?_⟩
  rintro p rfl rfl
  have hplace := (p.place_of_anchor o hanchor).trans hlocate
  refine ⟨.unplaced p.reports.length (o.order.map (o.attemptBy p.document h.anchor _)), _, ?_, rfl, rfl, rfl,
    HunkReport.isFirstBest_foldl fun a ha x hx => ?_⟩
  · simp only [Progress.step, hplace]
  · obtain ⟨s, -, rfl⟩ := List.mem_map.mp ha
    obtain ⟨found, hfound, rfl⟩ := Option.map_eq_some_iff.mp hx
    obtain ⟨m, -, hscan⟩ := Option.bind_eq_some_iff.mp hfound
    exact Matcher.isFinite_confidence hscan

/-- A line with other blanks than the anchor: the verbatim search finds no span, the next one accepts its own, and
the searches by similarity make no attempt. -/
theorem locate_cascade_otherBlanks :
    let o : Options Float := standard
    let d := Document.parse "x\na  b\n"
    let h := Hunk.replacing ["a b"] ["c"]
    o.check = .ok () ∧ h.anchor ≠ [] ∧ ∃ c, o.locateBy d h.anchor none .blanks = some c ∧
      o.locate d h none = (some c, [⟨.exact, none⟩, ⟨.blanks, some c.confidence⟩]) := by
  intro o d h
  have hexact : (o.locateBy d h.anchor none .exact).isNone = true := by decide +kernel
  have hscan : (o.scanBy d h.anchor none .exact).isNone = true := by decide +kernel
  have hblanks : (o.locateBy d h.anchor none .blanks).isSome = true := by decide +kernel
  have hvalid : (standard : Options Float).check = .ok () := rfl
  have horder : o.order = [.exact, .blanks, .approximate, .intent] := rfl
  refine ⟨hvalid, by decide, ?_⟩
  rcases locate_cascade o d h none hvalid (by decide) with
    ⟨before, s, after, c, hsplit, hbefore, hs, hlocate⟩ | ⟨hnone, -⟩
  · rw [horder] at hsplit
    rcases before with - | ⟨first, - | ⟨second, before⟩⟩ <;> obtain ⟨rfl, hrest⟩ := List.cons.inj hsplit
    · rw [Option.isNone_iff_eq_none.mp hexact] at hs
      cases hs
    · obtain ⟨rfl, -⟩ := List.cons.inj hrest
      refine ⟨c, hs, hlocate.trans ?_⟩
      rw [List.map_append, List.map_singleton, List.map_singleton, attemptBy_of_locateBy hs, attemptBy,
        Option.isNone_iff_eq_none.mp hscan]
      rfl
    · obtain ⟨rfl, -⟩ := List.cons.inj hrest
      rw [hbefore .blanks (by simp)] at hblanks
      cases hblanks
  · rw [hnone .blanks (by decide)] at hblanks
    cases hblanks

end Options

end TextRepair
