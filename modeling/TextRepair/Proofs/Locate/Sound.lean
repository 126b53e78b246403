import TextRepair.Proofs.Locate.Checked
import TextRepair.Proofs.Score.Finite

/-!
# What is found is inside the document

Main statement, `Matcher.scan_sound`: a search finds one line or more, all of them lines of the document, and a
span that its strategy allows (`Matcher.Admits`); the search up to blanks finds nothing only if there is no such
span; and no step of a search reads outside a list or goes below zero. What is found is one of the windows of
the search, whatever the scores are. That something is found needs more: the window with the highest score is
kept only if its score is near itself, which an infinite or undefined score is not.
-/

namespace TextRepair

open Locate

namespace Window

variable {S : Type} [Score S] {ws : List (Window S)}

theorem exists_score_of_top? {top : S} (htop : top? ws = some top) : ∃ w ∈ ws, w.score = top := by
  cases ws with
  | nil => cases htop
  | cons w ws =>
    obtain rfl := Option.some.inj htop
    induction ws using List.reverseRecOn with
    | nil => exact ⟨w, List.mem_cons_self, rfl⟩
    | append_singleton ws v ih =>
      rw [List.foldl_append, List.foldl_cons, List.foldl_nil, Score.greatest]
      split_ifs
      · exact ⟨v, by simp, rfl⟩
      · obtain ⟨u, hu, hscore⟩ := ih rfl
        exact ⟨u, by simp at hu ⊢; tauto, hscore⟩

theorem exists_of_report? {anchorSize : Nat} {hint : Option Nat} {strategy : Strategy} {cap : S} {found : Scan S}
    (hreport : report? ws anchorSize hint strategy cap = some found) :
    ∃ w ∈ ws, found.candidate.start = w.start ∧ found.candidate.stop = w.stop := by
  obtain ⟨⟨w, alternatives⟩, hbest, rfl⟩ := Option.map_eq_some_iff.mp hreport
  exact ⟨w, mem_of_best? hbest, rfl, rfl⟩

theorem report?_ne_none (hne : ws ≠ []) (hnear : ∀ w ∈ ws, Score.near w.score w.score = true) (anchorSize : Nat)
    (hint : Option Nat) (strategy : Strategy) (cap : S) :
    report? ws anchorSize hint strategy cap ≠ none := by
  obtain ⟨top, htop⟩ : ∃ top, top? ws = some top := by
    obtain ⟨w, ws, rfl⟩ := List.exists_cons_of_ne_nil hne
    exact ⟨_, rfl⟩
  obtain ⟨w, hw, rfl⟩ := exists_score_of_top? htop
  obtain ⟨found, hfound, -⟩ := report?_of_top? htop ⟨w, hw, hnear w hw⟩ anchorSize hint strategy cap
  rw [hfound]
  exact Option.some_ne_none found

end Window

namespace Locate

variable {S : Type} [Score S]

/-- The windows kept are among the ones that the search looks at. -/
def Sieve.KeepsVisited (blocks : Bool) (lines : List (List Char)) (spans : List (Nat × Nat)) (sieve : Sieve S) :
    Prop :=
  ∀ w ∈ sieve.kept, (w.start, w.size) ∈ spans ∧ isVisited blocks lines (w.start, w.size) = true

theorem Sieve.KeepsVisited.visit {blocks : Bool} {lines : List (List Char)} {spans : List (Nat × Nat)}
    {sieve : Sieve S} (h : sieve.KeepsVisited blocks lines spans) (wanted : List Char) {span : Nat × Nat}
    (hspan : span ∈ spans) : (sieve.visit blocks lines wanted span).KeepsVisited blocks lines spans := by
  unfold Sieve.visit
  simp only
  split_ifs with hskip
  · exact h
  · split
    · exact h
    · intro w hw
      rcases List.mem_cons.mp hw with rfl | hw
      · refine ⟨hspan, ?_⟩
        rw [isVisited, Bool.not_eq_true', Bool.eq_false_iff]
        exact hskip
      · exact h w hw

theorem Sieve.KeepsVisited.foldl {blocks : Bool} {lines : List (List Char)} {spans : List (Nat × Nat)}
    {sieve : Sieve S} (h : sieve.KeepsVisited blocks lines spans) (wanted : List Char) {rest : List (Nat × Nat)}
    (hrest : rest ⊆ spans) :
    (rest.foldl (Sieve.visit blocks lines wanted) sieve).KeepsVisited blocks lines spans := by
  induction rest generalizing sieve with
  | nil => exact h
  | cons span rest ih =>
    rw [List.cons_subset] at hrest
    exact ih (h.visit wanted hrest.1) hrest.2

theorem visited_of_mem_similarWindows {blocks : Bool} {lines : List (List Char)} {wanted : List Char}
    {least most : Nat} {w : Window S} (hw : w ∈ similarWindows blocks lines wanted least most) :
    (least ≤ w.size ∧ w.size ≤ most ∧ w.stop ≤ lines.length) ∧
      isVisited blocks lines (w.start, w.size) = true := by
  have hstart : Sieve.KeepsVisited blocks lines (spans lines.length least most) (⟨Score.ofNat 0, []⟩ : Sieve S) :=
    fun _ hw => absurd hw List.not_mem_nil
  obtain ⟨hspan, hvisited⟩ := hstart.foldl wanted (List.Subset.refl _) w (List.mem_reverse.mp hw)
  exact ⟨mem_spans.mp hspan, hvisited⟩

theorem differing_le (xs ys : List String) : differing xs ys ≤ ys.length := by
  refine List.countP_le_length.trans ?_
  rw [List.length_zip]
  exact Nat.min_le_right _ _

end Locate

namespace Matcher

/-- The lines that a strategy takes for an anchor. -/
def AllowsLines {S : Type} (m : Matcher S) (anchor lines : List String) : Prop :=
  match m with
  | exact => lines = anchor
  | blanks => lines.map Text.collapse = anchor.map Text.collapse
  | approximate .. | intent .. => True

/-- The spans that a strategy allows for an anchor. -/
structure Admits {S : Type} (m : Matcher S) (anchor lines : List String) : Prop where
  size : m.AllowsSize anchor lines.length
  ends : m.AllowsEnds lines
  lines : m.AllowsLines anchor lines

variable {S : Type} {m : Matcher S} {d : Document} {anchor : List String}

/-- A window of one line or more in the document, whose lines a strategy allows. -/
structure Places (m : Matcher S) (d : Document) (anchor : List String) (w : Window S) : Prop where
  pos : 0 < w.size
  inside : w.stop ≤ d.size
  admits : m.Admits anchor (slice d.texts w.start w.size)

theorem Places.of_length {w : Window S} (hpos : 0 < w.size) (hinside : w.stop ≤ d.size)
    (hsize : m.AllowsSize anchor w.size) (hends : m.AllowsEnds (slice d.texts w.start w.size))
    (hlines : m.AllowsLines anchor (slice d.texts w.start w.size)) : m.Places d anchor w := by
  refine ⟨hpos, hinside, ?_, hends, hlines⟩
  rw [← Document.length_texts] at hinside
  rwa [length_slice hinside]

variable [Score S]

theorem places_exact (hne : anchor ≠ []) {w : Window S} (hw : w ∈ exactWindows d.texts anchor) :
    (exact : Matcher S).Places d anchor w := by
  obtain ⟨⟨hinside, hslice⟩, hsize⟩ := mem_exactWindows.mp hw
  have hsize : w.size = anchor.length := by rw [hsize]
  rw [Document.length_texts, ← hsize] at hinside
  rw [← hsize] at hslice
  exact .of_length (hsize ▸ List.length_pos_iff.mpr hne) hinside hsize trivial hslice

theorem places_blanks (hne : anchor ≠ []) {w : Window S} (hw : w ∈ blankWindows d.texts anchor) :
    (blanks : Matcher S).Places d anchor w := by
  obtain ⟨hinside, hlines, hsize⟩ := mem_blankWindows.mp hw
  have hsize : w.size = anchor.length := by rw [hsize]
  rw [Document.length_texts, ← hsize] at hinside
  rw [← hsize] at hlines
  exact .of_length (hsize ▸ List.length_pos_iff.mpr hne) hinside hsize trivial hlines

theorem places_approximate (hne : anchor ≠ []) (threshold : S) (slack : Nat) {w : Window S}
    (hw : w ∈ similarWindows false (d.texts.map normalized) (joined (anchor.map normalized))
      (max (anchor.length - slack) 1) (Word.add anchor.length slack)) :
    (approximate threshold slack).Places d anchor w := by
  obtain ⟨⟨hleast, hmost, hinside⟩, -⟩ := visited_of_mem_similarWindows hw
  rw [List.length_map, Document.length_texts] at hinside
  exact .of_length (by omega) hinside ⟨hne, by omega, hmost⟩ trivial trivial

theorem places_intent (hne : visibleLines anchor ≠ []) (threshold : S) {w : Window S}
    (hw : w ∈ similarWindows true (d.texts.map folded) (joined ((visibleLines anchor).map folded))
      (((visibleLines anchor).length + 1) / 2) (2 * (visibleLines anchor).length)) :
    (intent threshold).Places d anchor w := by
  have hlength := List.length_pos_iff.mpr hne
  obtain ⟨⟨hleast, hmost, hinside⟩, hvisited⟩ := visited_of_mem_similarWindows hw
  rw [List.length_map, Document.length_texts] at hinside
  have hpos : 0 < w.size := by omega
  exact .of_length hpos hinside ⟨hleast, hmost⟩ ((isVisited_folded threshold hpos hinside).mp hvisited) trivial

theorem exists_places {hint : Option Nat} {found : Scan S} (hscan : m.scan d anchor hint = some found) :
    ∃ w, m.Places d anchor w ∧ found.candidate.start = w.start ∧ found.candidate.stop = w.stop := by
  have hwindows {ws : List (Window S)} (hplaces : ∀ w ∈ ws, m.Places d anchor w) {anchorSize : Nat}
      {strategy : Strategy} {cap : S} (hreport : Window.report? ws anchorSize hint strategy cap = some found) :
      ∃ w, m.Places d anchor w ∧ found.candidate.start = w.start ∧ found.candidate.stop = w.stop := by
    obtain ⟨w, hw, hspan⟩ := Window.exists_of_report? hreport
    exact ⟨w, hplaces w hw, hspan⟩
  cases m with
  | exact =>
    rw [scan] at hscan
    split_ifs at hscan with hsize
    exact hwindows (fun w => places_exact (mt List.length_eq_zero_iff.mpr hsize)) hscan
  | blanks =>
    rw [scan] at hscan
    split_ifs at hscan with hsize
    exact hwindows (fun w => places_blanks (mt List.length_eq_zero_iff.mpr hsize)) hscan
  | approximate threshold slack =>
    rw [scan] at hscan
    split_ifs at hscan with hsize
    exact hwindows (fun w => places_approximate (mt List.length_eq_zero_iff.mpr hsize) threshold slack) hscan
  | intent threshold =>
    rw [scan, filter_map_folded] at hscan
    split_ifs at hscan with hempty
    rw [List.length_map] at hscan
    exact hwindows (fun w => places_intent (by simpa using hempty) threshold) hscan

theorem near_self_of_mem_blankWindows {lines : List String} (hne : anchor ≠ []) (hanchor : anchor.length < 2 ^ 64)
    {w : Window Float} (hw : w ∈ blankWindows lines anchor) : Score.near w.score w.score = true := by
  obtain ⟨-, -, hw⟩ := mem_blankWindows.mp hw
  rw [hw]
  exact Score.near_self (Score.isFinite_blankCap_sub ((differing_le _ anchor).trans_lt hanchor)
    (List.length_pos_iff.mpr hne) hanchor)

theorem scan_blanks_ne_none (hanchor : anchor.length < 2 ^ 64) (hint : Option Nat) {start stop : Nat}
    (hpos : start < stop) (hinside : stop ≤ d.size)
    (hadmits : (blanks : Matcher Float).Admits anchor (slice d.texts start (stop - start))) :
    (blanks : Matcher Float).scan d anchor hint ≠ none := by
  rw [← Document.length_texts] at hinside
  have hsize : stop - start = anchor.length :=
    (length_slice (by omega)).symm.trans hadmits.size
  have hne : anchor ≠ [] := by
    rintro rfl
    rw [List.length_nil] at hsize
    omega
  have hlines := hadmits.lines
  rw [hsize] at hlines
  have hfits : start + anchor.length ≤ d.texts.length := by omega
  have hw : (⟨start, anchor.length, blankScore Float d.texts anchor start⟩ : Window Float) ∈
      blankWindows d.texts anchor := mem_blankWindows.mpr ⟨hfits, hlines, rfl⟩
  rw [scan, if_neg (mt List.length_eq_zero_iff.mp hne)]
  exact Window.report?_ne_none (List.ne_nil_of_mem hw)
    (fun w hw => near_self_of_mem_blankWindows hne hanchor hw) anchor.length hint .blanks Score.blankCap

/-- What a search finds, without a step outside a list or below zero: at least one line, no line beyond the end
of the document, and lines that its strategy allows. The search up to blanks finds something wherever there is
something to be found. -/
theorem scan_sound (m : Matcher Float) (d : Document) (anchor : List String) (hint : Option Nat) :
    Checked.scan m d anchor hint = .ok (m.scan d anchor hint) ∧
    (∀ found, m.scan d anchor hint = some found →
      found.candidate.start < found.candidate.stop ∧ found.candidate.stop ≤ d.size ∧
      m.Admits anchor (slice d.texts found.candidate.start found.candidate.size)) ∧
    (m.strategy = .blanks → anchor.length < 2 ^ 64 → m.scan d anchor hint = none →
      ∀ start stop, start < stop → stop ≤ d.size →
        ¬m.Admits anchor (slice d.texts start (stop - start))) := by
  refine ⟨Checked.scan_eq m d anchor hint, fun found hscan => ?_, fun hm hanchor hnone => ?_⟩
  · obtain ⟨w, hplaces, hstart, hstop⟩ := exists_places hscan
    have hpos := hplaces.pos
    have hsize : found.candidate.size = w.size := by
      rw [Candidate.size, hstart, hstop, Window.stop]
      omega
    rw [hsize, hstart, hstop]
    refine ⟨?_, hplaces.inside, hplaces.admits⟩
    rw [Window.stop]
    omega
  · intro start stop hpos hinside hadmits
    cases m with
    | blanks => exact scan_blanks_ne_none hanchor hint hpos hinside hadmits hnone
    | exact => cases hm
    | approximate threshold slack => cases hm
    | intent threshold => cases hm

/-- Letter case matters for blanks and not for a block: the block search finds the line between the blank ones,
and no lines are the anchor up to blanks. -/
theorem scan_sound_letterCase :
    (∃ found, (intent (Score.decimal 6 1) : Matcher Float).scan (Document.parse "\nsize  = 1\n\n") ["Size = 1"] none
        = some found ∧ found.candidate.start < found.candidate.stop ∧ found.candidate.stop ≤ 3 ∧
      (intent (Score.decimal 6 1) : Matcher Float).Admits ["Size = 1"]
        (slice (Document.parse "\nsize  = 1\n\n").texts found.candidate.start found.candidate.size)) ∧
    ∀ start stop, start < stop → stop ≤ 3 → ¬(blanks : Matcher Float).Admits ["Size = 1"]
      (slice (Document.parse "\nsize  = 1\n\n").texts start (stop - start)) := by
  constructor
  · have hfound : ((intent (Score.decimal 6 1) : Matcher Float).scan (Document.parse "\nsize  = 1\n\n")
        ["Size = 1"] none).isSome = true := by decide +kernel
    obtain ⟨found, hscan⟩ := Option.isSome_iff_exists.mp hfound
    exact ⟨found, hscan, (scan_sound _ _ _ none).2.1 found hscan⟩
  · have hnone : (blanks : Matcher Float).scan (Document.parse "\nsize  = 1\n\n") ["Size = 1"] none = none := by
      decide +kernel
    exact (scan_sound blanks _ _ none).2.2 rfl (by decide) hnone

end Matcher

end TextRepair
