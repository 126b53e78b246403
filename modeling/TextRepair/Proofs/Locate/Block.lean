import TextRepair.Proofs.Locate.Sound
import TextRepair.Proofs.Score.Near
import TextRepair.Proofs.Text.Lines

/-!
# Blocks and blank lines

A block search leaves blank lines out of the texts that it compares, in the anchor and in the document. But a blank
line counts in the length of a window, and the lengths go up to twice the number of lines of the anchor that are not
blank. So a block that is the anchor up to blanks, letter case and blank lines is found if without its blank ends it
has no more lines than that, and nothing longer is ever found (`Matcher.locate_intent_block`). With more blank lines
in between even a verbatim block is not (`Matcher.not_locate_intent_verbatim`).

What is kept of the windows has its similarity for a score, which is finite and at most 1 (`Sieve.Scores`). A window
with the compared text of the anchor scores 1 and reaches every floor, so the highest score is 1, and what is within
the tolerance of it comes up to every threshold. The limit on lengths keeps whole numbers finite.
-/

namespace TextRepair

open Locate

/-! ### Similarities as binary scores -/

/-- One minus the edit distance over the greater length. -/
noncomputable def plainSimilarity (S : Type) [Score S] (xs ys : List Char) : S :=
  if max xs.length ys.length = 0 then Score.ofNat 1
  else Score.ofNat 1 - Score.ofNat (editDistance xs ys) / Score.ofNat (max xs.length ys.length)

theorem eq_plainSimilarity {S : Type} [Score S] {xs ys : List Char} {floor score : S}
    (hscore : similarityAtLeast xs ys floor = some score) : score = plainSimilarity S xs ys := by
  unfold similarityAtLeast at hscore
  simp only [editDistance?_eq] at hscore
  unfold plainSimilarity
  split_ifs at hscore ⊢ with hlongest hbound
  · exact (Option.some.inj hscore).symm
  · simp only at hscore
    split_ifs at hscore
    exact (Option.some.inj hscore).symm

theorem editDistance_self (xs : List Char) : editDistance xs xs = 0 :=
  Nat.le_zero.mp (editDistance_eq_distance xs xs ▸ distance_le_of_edits (.refl xs))

/-- A score as a search by similarity gives it: finite and at most one. -/
structure Score.IsSimilarity (x : Float) : Prop where
  within : Within 329 x
  le_one : value x ≤ 1

theorem isSimilarity_plainSimilarity {xs ys : List Char} (hxs : xs.length < 2 ^ 64) (hys : ys.length < 2 ^ 64) :
    Score.IsSimilarity (plainSimilarity Float xs ys) := by
  unfold plainSimilarity
  split_ifs with hlongest
  · exact ⟨Score.within_one.mono (by decide), Score.value_one.le⟩
  · have hmax : max xs.length ys.length < 2 ^ 64 := max_lt hxs hys
    have hdistance : editDistance xs ys < 2 ^ 64 := by
      rw [editDistance_eq_distance]
      exact (distance_le_max xs ys).trans_lt hmax
    obtain ⟨hwithin, hle⟩ := Score.one_sub_share hdistance (Nat.pos_of_ne_zero hlongest) hmax
    exact ⟨hwithin, hle⟩

theorem similarityAtLeast_self {xs : List Char} (hxs : xs.length < 2 ^ 64) {floor : Float}
    (hfloor : floor.isFinite = true) : similarityAtLeast xs xs floor = some (Score.ofNat 1) := by
  obtain ⟨hclamp, hle⟩ := Score.clamp_mem hfloor
  have hreaches : Score.reaches (Score.ofNat 1) (Score.clamp floor) = true :=
    Score.reaches_of_near Score.within_one Score.within_one (by decide) (by decide) Score.value_one
      (Score.near_self Score.within_one.isFinite) hclamp (abs_le.mp hle).2
  unfold similarityAtLeast
  simp only [editDistance?_eq, editDistance_self, max_self, Nat.zero_le, if_true]
  by_cases hlongest : xs.length = 0
  · rw [if_pos hlongest]
  · rw [if_neg hlongest, Score.one_sub_zero (Nat.pos_of_ne_zero hlongest) hxs, if_pos hreaches]

/-! ### The windows that are kept -/

namespace Locate

section

variable {blocks : Bool} {lines : List (List Char)} {wanted : List Char}

/-- What the sieve has kept after the windows of `spans`: windows with their similarities as scores, and all those
with the wanted text. -/
structure Sieve.Scores (blocks : Bool) (lines : List (List Char)) (wanted : List Char) (spans : List (Nat × Nat))
    (sieve : Sieve Float) : Prop where
  floor : sieve.floor.isFinite = true
  score : ∀ w ∈ sieve.kept,
    w.score = plainSimilarity Float wanted (windowText blocks (slice lines w.start w.size))
  perfect : ∀ span ∈ spans, isVisited blocks lines span = true →
    windowText blocks (slice lines span.1 span.2) = wanted → ⟨span.1, span.2, Score.ofNat 1⟩ ∈ sieve.kept

theorem Sieve.Scores.visit {spans : List (Nat × Nat)} {sieve : Sieve Float}
    (h : sieve.Scores blocks lines wanted spans) (hwanted : wanted.length < 2 ^ 64) (span : Nat × Nat)
    (hlength : (windowText blocks (slice lines span.1 span.2)).length < 2 ^ 64) :
    (sieve.visit blocks lines wanted span).Scores blocks lines wanted (spans ++ [span]) := by
  obtain ⟨start, size⟩ := span
  unfold Sieve.visit
  by_cases hskip : (blocks && !isBlock (slice lines start size)) = true
  · have hvisited : isVisited blocks lines (start, size) = false := by simp [isVisited, hskip]
    simp only [hskip, if_true]
    refine ⟨h.floor, h.score, fun span hspan hvisit => ?_⟩
    rcases List.mem_append.mp hspan with hspan | hspan
    · exact h.perfect span hspan hvisit
    · rw [List.mem_singleton.mp hspan, hvisited] at hvisit
      cases hvisit
  · simp only [hskip, Bool.false_eq_true, if_false]
    -- a window with the wanted text is dropped by no floor
    have hperfect (htext : windowText blocks (slice lines start size) = wanted) :=
      similarityAtLeast_self hwanted h.floor
    cases hsimilar : similarityAtLeast wanted (windowText blocks (slice lines start size)) sieve.floor with
    | none =>
      refine ⟨h.floor, h.score, fun span hspan hvisit htext => ?_⟩
      rcases List.mem_append.mp hspan with hspan | hspan
      · exact h.perfect span hspan hvisit htext
      · rw [List.mem_singleton.mp hspan] at htext
        rw [htext, hperfect htext] at hsimilar
        cases hsimilar
    | some score =>
      have hscore := eq_plainSimilarity hsimilar
      refine ⟨?_, fun w hw => ?_, fun span hspan hvisit htext => ?_⟩
      · have hfinite := (isSimilarity_plainSimilarity hwanted hlength).within.isFinite
        rw [← hscore] at hfinite
        show (Score.greatest sieve.floor score).isFinite = true
        unfold Score.greatest
        split_ifs
        · exact hfinite
        · exact h.floor
      · rcases List.mem_cons.mp hw with rfl | hw
        · exact hscore
        · exact h.score w hw
      · rcases List.mem_append.mp hspan with hspan | hspan
        · exact List.mem_cons_of_mem _ (h.perfect span hspan hvisit htext)
        · rw [List.mem_singleton.mp hspan] at htext ⊢
          rw [htext, hperfect htext] at hsimilar
          rw [Option.some.inj hsimilar]
          exact List.mem_cons_self

theorem Sieve.Scores.foldl_visit (hwanted : wanted.length < 2 ^ 64) (rest : List (Nat × Nat))
    (hlength : ∀ span ∈ rest, (windowText blocks (slice lines span.1 span.2)).length < 2 ^ 64) :
    ∀ (spans : List (Nat × Nat)) (sieve : Sieve Float), sieve.Scores blocks lines wanted spans →
      (rest.foldl (Sieve.visit blocks lines wanted) sieve).Scores blocks lines wanted (spans ++ rest) := by
  induction rest with
  | nil =>
    intro spans sieve h
    simpa using h
  | cons span rest ih =>
    intro spans sieve h
    have hvisit := h.visit hwanted span (hlength span List.mem_cons_self)
    rw [List.foldl_cons, List.append_cons]
    exact ih (fun span hspan => hlength span (List.mem_cons_of_mem _ hspan)) _ _ hvisit

theorem scores_similarWindows (hwanted : wanted.length < 2 ^ 64) {least most : Nat}
    (hlength : ∀ span ∈ spans lines.length least most,
      (windowText blocks (slice lines span.1 span.2)).length < 2 ^ 64) :
    ∃ sieve : Sieve Float, similarWindows blocks lines wanted least most = sieve.kept.reverse ∧
      sieve.Scores blocks lines wanted (spans lines.length least most) := by
  have hstart : Sieve.Scores blocks lines wanted [] ⟨Score.ofNat 0, []⟩ := ⟨rfl, by simp, by simp⟩
  exact ⟨_, rfl, by simpa using hstart.foldl_visit hwanted _ hlength⟩

end

theorem length_joined_le (lines : List (List Char)) : (joined lines).length ≤ (lines.map (·.length + 1)).sum := by
  induction lines with
  | nil => simp [joined, List.intercalate]
  | cons line lines ih =>
    cases lines with
    | nil => simp [joined, List.intercalate]
    | cons next lines =>
      have hjoined : joined (line :: next :: lines) = line ++ '\n' :: joined (next :: lines) := by
        simp [joined, List.intercalate]
      rw [hjoined, List.length_append, List.length_cons, List.map_cons, List.sum_cons]
      omega

theorem length_windowText_le (lines : List (List Char)) (start size : Nat) :
    (windowText true (slice lines start size)).length ≤ (lines.map (·.length + 1)).sum := by
  refine (length_joined_le _).trans ?_
  have hsub : ((slice lines start size).filter (!·.isEmpty)).Sublist lines :=
    List.filter_sublist.trans ((List.take_sublist _ _).trans (List.drop_sublist _ _))
  exact (hsub.map (·.length + 1)).sum_le_sum (by simp)

end Locate

/-! ### The choice -/

namespace Window

theorem value_le_of_top? {ws : List (Window Float)} (hfinite : ∀ w ∈ ws, w.score.isFinite = true) {top : Float}
    (htop : top? ws = some top) : ∀ w ∈ ws, Score.value w.score ≤ Score.value top := by
  cases ws with
  | nil => cases htop
  | cons w ws =>
    obtain rfl := Option.some.inj htop
    induction ws using List.reverseRecOn with
    | nil => simp
    | append_singleton ws v ih =>
      have hprior : ∀ u ∈ w :: ws, u.score.isFinite = true :=
        fun u hu => hfinite u (by simp at hu ⊢; tauto)
      obtain ⟨u, hu, hscore⟩ := exists_score_of_top? (show top? (w :: ws) = some _ from rfl)
      have hlast : v.score.isFinite = true := hfinite v (by simp)
      rw [List.foldl_append, List.foldl_cons, List.foldl_nil, Score.value_greatest (hscore ▸ hprior u hu) hlast]
      intro x hx
      rw [← List.cons_append] at hx
      rcases List.mem_append.mp hx with hx | hx
      · exact (ih hprior rfl x hx).trans (le_max_left _ _)
      · rw [List.mem_singleton.mp hx]
        exact le_max_right _ _

theorem report?_of_perfect {ws : List (Window Float)} (hscore : ∀ w ∈ ws, Score.IsSimilarity w.score)
    (hperfect : ∃ w ∈ ws, w.score = Score.ofNat 1) (anchorSize : Nat) (hint : Option Nat) (strategy : Strategy)
    (cap : Float) :
    ∃ found, report? ws anchorSize hint strategy cap = some found ∧
      ∀ bound : Float, bound.isFinite = true → Score.value bound ≤ 1 → Score.reaches found.score bound = true := by
  obtain ⟨perfect, hmem, hone⟩ := hperfect
  obtain ⟨top, htop⟩ : ∃ top, top? ws = some top := by
    obtain ⟨w, ws, rfl⟩ := List.exists_cons_of_ne_nil (List.ne_nil_of_mem hmem)
    exact ⟨_, rfl⟩
  obtain ⟨w, hw, rfl⟩ := exists_score_of_top? htop
  have hvalue : Score.value w.score = 1 := by
    refine le_antisymm (hscore w hw).le_one ?_
    rw [← Score.value_one, ← hone]
    exact value_le_of_top? (fun v hv => (hscore v hv).within.isFinite) htop perfect hmem
  have hnear := Score.near_self (hscore w hw).within.isFinite
  obtain ⟨found, hfound, v, hv, hnear, hfoundScore, -⟩ :=
    report?_of_top? htop ⟨w, hw, hnear⟩ anchorSize hint strategy cap
  refine ⟨found, hfound, fun bound hbound hle => ?_⟩
  rw [hfoundScore]
  exact Score.reaches_of_near (hscore v hv).within (hscore w hw).within (by decide) (by decide) hvalue hnear
    hbound hle

end Window

/-! ### Blocks that are found -/

namespace Matcher

section

variable {d : Document} {anchor : List String} {threshold : Float} {hint : Option Nat}

theorem scan_intent (hvisible : visibleLines anchor ≠ []) :
    (intent threshold).scan d anchor hint
      = Window.report? (similarWindows true (d.texts.map folded) (joined ((visibleLines anchor).map folded))
          (((visibleLines anchor).length + 1) / 2) (2 * (visibleLines anchor).length)) anchor.length hint .intent
          Score.inexactCap := by
  rw [scan, filter_map_folded, if_neg (by simpa using hvisible), List.length_map]

theorem scores_intent (hanchor : (joined ((visibleLines anchor).map folded)).length < 2 ^ 64)
    (hlength : ((d.texts.map folded).map (·.length + 1)).sum < 2 ^ 64) :
    ∃ sieve : Sieve Float,
      similarWindows true (d.texts.map folded) (joined ((visibleLines anchor).map folded))
          (((visibleLines anchor).length + 1) / 2) (2 * (visibleLines anchor).length) = sieve.kept.reverse ∧
      sieve.Scores true (d.texts.map folded) (joined ((visibleLines anchor).map folded))
        (spans (d.texts.map folded).length (((visibleLines anchor).length + 1) / 2)
          (2 * (visibleLines anchor).length)) :=
  scores_similarWindows hanchor fun span _ => (length_windowText_le _ span.1 span.2).trans_lt hlength

/-- A block that is the anchor up to blanks, letter case and blank lines, with ends that are not blank and a length
that is tried: something is found, and it comes up to every threshold. -/
theorem scan_intent_of_block (hint : Option Nat) {start size : Nat} (hvisible : visibleLines anchor ≠ [])
    (hlength : ((d.texts.map folded).map (·.length + 1)).sum < 2 ^ 64)
    (hinside : start + size ≤ d.size) (hsize : (intent threshold).AllowsSize anchor size)
    (hends : (intent threshold).AllowsEnds (slice d.texts start size))
    (hlines : (visibleLines (slice d.texts start size)).map folded = (visibleLines anchor).map folded) :
    ∃ found, (intent threshold).scan d anchor hint = some found ∧
      ∀ bound : Float, bound.isFinite = true → Score.value bound ≤ 1 → Score.reaches found.score bound = true := by
  obtain ⟨hleast, hmost⟩ := hsize
  have hpos := List.length_pos_iff.mpr hvisible
  have htext (start size : Nat) : (windowText true (slice (d.texts.map folded) start size)).length < 2 ^ 64 :=
    (length_windowText_le _ start size).trans_lt hlength
  have hwanted : windowText true (slice (d.texts.map folded) start size)
      = joined ((visibleLines anchor).map folded) := by
    rw [slice_map, windowText, if_pos rfl, filter_map_folded, hlines]
  have hanchor : (joined ((visibleLines anchor).map folded)).length < 2 ^ 64 := hwanted ▸ htext start size
  obtain ⟨sieve, hkept, hsieve⟩ := scores_intent hanchor hlength
  have hspan : (start, size) ∈ spans (d.texts.map folded).length
      (((visibleLines anchor).length + 1) / 2) (2 * (visibleLines anchor).length) := by
    rw [mem_spans, List.length_map, Document.length_texts]
    exact ⟨hleast, hmost, hinside⟩
  have hvisited : isVisited true (d.texts.map folded) (start, size) = true :=
    (isVisited_folded threshold (by omega) hinside).mpr hends
  have hscores : ∀ w ∈ sieve.kept.reverse, Score.IsSimilarity w.score := by
    intro w hw
    rw [hsieve.score w (List.mem_reverse.mp hw)]
    exact isSimilarity_plainSimilarity hanchor (htext w.start w.size)
  rw [scan_intent hvisible, hkept]
  exact Window.report?_of_perfect hscores
    ⟨_, List.mem_reverse.mpr (hsieve.perfect _ hspan hvisited hwanted), rfl⟩ anchor.length hint .intent
    Score.inexactCap

theorem reaches_of_locate_intent (hvisible : visibleLines anchor ≠ [])
    (hanchor : (joined ((visibleLines anchor).map folded)).length < 2 ^ 64)
    (hlength : ((d.texts.map folded).map (·.length + 1)).sum < 2 ^ 64) {c : Candidate Float}
    (hlocate : (intent threshold).locate d anchor hint = some c) :
    ∃ span ∈ (spans (d.texts.map folded).length (((visibleLines anchor).length + 1) / 2)
        (2 * (visibleLines anchor).length)).filter (isVisited true (d.texts.map folded)),
      Score.reaches (plainSimilarity Float (joined ((visibleLines anchor).map folded))
        (windowText true (slice (d.texts.map folded) span.1 span.2))) threshold = true := by
  obtain ⟨found, hscan, haccepts, -⟩ := locate_eq_some hlocate
  rw [scan_intent hvisible] at hscan
  obtain ⟨⟨w, alternatives⟩, hbest, rfl⟩ := Option.map_eq_some_iff.mp hscan
  have hw := Window.mem_of_best? hbest
  obtain ⟨hspan, hvisited⟩ := visited_of_mem_similarWindows hw
  obtain ⟨sieve, hkept, hsieve⟩ := scores_intent hanchor hlength
  rw [hkept, List.mem_reverse] at hw
  refine ⟨(w.start, w.size), List.mem_filter.mpr ⟨mem_spans.mpr hspan, hvisited⟩, ?_⟩
  rw [← hsieve.score w hw]
  exact haccepts

end

/-- A block of the document that is the anchor up to blanks, letter case and blank lines. If without its blank ends
it has at most twice as many lines as the anchor has lines that are not blank, then the search accepts a span,
however many blank lines the anchor has and whatever the hint. What the search accepts never has more lines than
that, and never fewer than half as many as the anchor has lines that are not blank. -/
theorem locate_intent_block (d : Document) (anchor : List String) (hint : Option Nat) (threshold : Float)
    (hthreshold : Options.isThreshold threshold = true) (hvisible : visibleLines anchor ≠ [])
    (hlength : ((d.texts.map folded).map (·.length + 1)).sum < 2 ^ 64) :
    (∀ block, block <:+: d.texts → (visibleLines block).map folded = (visibleLines anchor).map folded →
      (Text.dropOuterBlank block).length ≤ 2 * (visibleLines anchor).length →
      ∃ c, (intent threshold).locate d anchor hint = some c) ∧
    ∀ c, (intent threshold).locate d anchor hint = some c →
      ((visibleLines anchor).length + 1) / 2 ≤ c.size ∧ c.size ≤ 2 * (visibleLines anchor).length := by
  refine ⟨fun block hblock hlines hsize => ?_, fun c hlocate => ?_⟩
  · obtain ⟨start, hinside, hslice⟩ := OccursAt.of_infix ((Text.dropOuterBlank_infix block).trans hblock)
    rw [Document.length_texts] at hinside
    have hshown : visibleLines (Text.dropOuterBlank block) = visibleLines block := Text.filter_dropOuterBlank block
    have hcount : (visibleLines anchor).length ≤ (Text.dropOuterBlank block).length := by
      have hmap := congrArg List.length hlines
      rw [List.length_map, List.length_map, ← hshown] at hmap
      rw [← hmap]
      exact List.length_filter_le _ _
    have hends := Text.dropOuterBlank_ends block
    rw [← hslice] at hends
    obtain ⟨found, hscan, hreaches⟩ :=
      scan_intent_of_block hint hvisible hlength hinside ⟨by omega, hsize⟩ hends (by rw [hslice, hshown, hlines])
    obtain ⟨hbound, hle⟩ := Score.value_le_of_isThreshold hthreshold
    exact ⟨found.candidate, locate_of_scan hscan (hreaches threshold hbound hle)⟩
  · obtain ⟨found, hscan, -, rfl⟩ := locate_eq_some hlocate
    obtain ⟨w, hplaces, hstart, hstop⟩ := exists_places hscan
    have hsize := hplaces.admits.size
    rw [length_slice (by rw [Document.length_texts]; exact hplaces.inside)] at hsize
    have hequal : found.candidate.size = w.size := by
      rw [Candidate.size, hstart, hstop, Window.stop]
      omega
    rw [hequal]
    exact hsize

/-- Letter case, blanks and two blank lines in between, against an anchor with many blank lines. -/
theorem locate_intent_block_twoBlankLines :
    Options.isThreshold (Score.ofNat 1 : Float) = true ∧ visibleLines ["a", "", "", "", "B c"] ≠ [] ∧
    (((Document.parse "x\nA\n\n\nb  c\n").texts.map folded).map (·.length + 1)).sum < 2 ^ 64 ∧
    ["A", "", "", "b  c"] <:+: (Document.parse "x\nA\n\n\nb  c\n").texts ∧
    ∃ c, (intent (Score.ofNat 1 : Float)).locate (Document.parse "x\nA\n\n\nb  c\n") ["a", "", "", "", "B c"]
      (some 9) = some c := by
  have hthreshold : Options.isThreshold (Score.ofNat 1 : Float) = true := rfl
  have hvisible : visibleLines ["a", "", "", "", "B c"] ≠ [] := by decide +kernel
  have hlength : (((Document.parse "x\nA\n\n\nb  c\n").texts.map folded).map (·.length + 1)).sum < 2 ^ 64 := by
    decide +kernel
  have hblock : ["A", "", "", "b  c"] <:+: (Document.parse "x\nA\n\n\nb  c\n").texts := ⟨["x"], [], by decide +kernel⟩
  exact ⟨hthreshold, hvisible, hlength, hblock, (locate_intent_block _ _ (some 9) _ hthreshold hvisible hlength).1 _
    hblock (by decide +kernel) (by decide +kernel)⟩

/-- Three blank lines between two others: the whole document is the anchor, and the search for it accepts nothing. -/
theorem not_locate_intent_verbatim :
    Options.isThreshold (Score.decimal 6 1 : Float) = true ∧ visibleLines ["a", "", "", "", "b"] ≠ [] ∧
    ["a", "", "", "", "b"] <:+: (Document.parse "a\n\n\n\nb\n").texts ∧
    (intent (Score.decimal 6 1 : Float)).locate (Document.parse "a\n\n\n\nb\n") ["a", "", "", "", "b"] none = none := by
  have hvisible : visibleLines ["a", "", "", "", "b"] ≠ [] := by decide +kernel
  refine ⟨rfl, hvisible, ⟨[], [], by decide +kernel⟩, ?_⟩
  by_contra hsome
  obtain ⟨c, hlocate⟩ := Option.ne_none_iff_exists'.mp hsome
  obtain ⟨span, hspan, hreaches⟩ := reaches_of_locate_intent hvisible (by decide +kernel) (by decide +kernel) hlocate
  have hshort : ∀ span ∈ (spans ((Document.parse "a\n\n\n\nb\n").texts.map folded).length
      (((visibleLines ["a", "", "", "", "b"]).length + 1) / 2)
      (2 * (visibleLines ["a", "", "", "", "b"]).length)).filter
        (isVisited true ((Document.parse "a\n\n\n\nb\n").texts.map folded)),
      windowText true (slice ((Document.parse "a\n\n\n\nb\n").texts.map folded) span.1 span.2) = ['a'] ∨
      windowText true (slice ((Document.parse "a\n\n\n\nb\n").texts.map folded) span.1 span.2) = ['b'] := by
    decide +kernel
  have hanchor : joined ((visibleLines ["a", "", "", "", "b"]).map folded) = ['a', '\n', 'b'] := by decide +kernel
  have hthird : Score.reaches (Score.ofNat 1 - Score.ofNat 2 / Score.ofNat 3 : Float) (Score.decimal 6 1) = false := rfl
  have hscore (c : Char) (hc : c = 'a' ∨ c = 'b') :
      plainSimilarity Float ['a', '\n', 'b'] [c] = Score.ofNat 1 - Score.ofNat 2 / Score.ofNat 3 := by
    have hdistance : editDistance ['a', '\n', 'b'] [c] = 2 := by
      rw [editDistance_eq_distance]
      rcases hc with rfl | rfl <;> simp [distance]
    rw [plainSimilarity, hdistance]
    rfl
  rw [hanchor] at hreaches
  rcases hshort span hspan with htext | htext <;> rw [htext, hscore _ (by simp), hthird] at hreaches <;>
    cases hreaches

end Matcher

end TextRepair
