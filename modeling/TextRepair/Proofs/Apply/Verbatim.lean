import TextRepair.Proofs.Apply.Sites

/-!
# An anchor that occurs verbatim

Where the verbatim search comes first and the anchor of a hunk occurs, the search decides: the hunk goes to
the occurrence that is nearest to its hint, and the texts of the document become the old ones with that
occurrence replaced, whatever else the document has and whether or not new lines are reindented. Where the
anchor does not occur, the search finds nothing. Main statement, `apply_verbatim`.

An application moves a hint past the changes before it (`shiftLine`), also where there are none. A line
number is left alone then, but a number from `lineBound` on becomes 0, so a hint that is so large does not
stand for the end of the document but for its start (`not_nearest_lineBound`). For the choice it is as if
there were no hint.
-/

namespace TextRepair

open Locate

/-! ### Hints before any change -/

theorem shiftLine_nil (line : Nat) : shiftLine line [] = if line < lineBound then line else 0 :=
  rfl

theorem Locate.IsNearest.of_shiftLine {lines anchor : List String} {hint : Option Nat} {start : Nat}
    (h : IsNearest lines anchor (hint.map (shiftLine · [])) start) :
    IsNearest lines anchor (hint.filter (· < lineBound)) start := by
  cases hint with
  | none => exact h
  | some line =>
    rw [Option.map_some, shiftLine_nil] at h
    by_cases hline : line < lineBound
    · rw [if_pos hline] at h
      rwa [Option.filter_some, if_pos (decide_eq_true hline)]
    · rw [if_neg hline] at h
      rw [Option.filter_some, if_neg (by simpa using hline)]
      exact h.of_zero

/-! ### One hunk -/

section

variable {S : Type} [Score S]

theorem Options.not_exceeds_singleton {o : Options S} (hvalid : o.check = .ok ()) (h : Hunk) :
    ¬o.Exceeds [h] := by
  rintro ⟨limit, hlimit, hlt⟩
  obtain rfl : limit = 0 := by
    rw [List.length_singleton] at hlt
    omega
  unfold check at hvalid
  simp only [hlimit, bind, Except.bind] at hvalid
  split_ifs at hvalid
  cases horder : checkOrder (S := S) [] o.order with
  | error e =>
    rw [horder] at hvalid
    cases hvalid
  | ok u =>
    rw [horder] at hvalid
    cases hvalid

theorem Options.checkHunks_singleton {o : Options S} (hvalid : o.check = .ok ()) {h : Hunk}
    (hcheck : h.check 0 = .ok ()) : o.checkHunks [h] = .ok () := by
  refine (o.checkHunks_eq_ok_iff [h]).mpr ⟨o.not_exceeds_singleton hvalid h, fun g hg index => ?_⟩
  rw [List.mem_singleton.mp hg]
  exact Hunk.check_eq_ok_of hcheck index

variable {o : Options S} {d : Document} {h : Hunk} {attempts : List (Attempt S)}

theorem Options.apply_of_placed (hchecks : o.checkHunks [h] = .ok ()) {c : Candidate S}
    (hplace : Progress.place o ⟨d, [], []⟩ h = (some c, attempts)) :
    o.apply d [h]
      = .ok ⟨[.placed 0 c attempts], d.spliceHunk c.start c.stop h o.reindent, true⟩ := by
  rw [apply, hchecks]
  simp only [List.foldl_cons, List.foldl_nil, Progress.step, hplace]
  rfl

theorem Options.apply_of_unplaced (hchecks : o.checkHunks [h] = .ok ())
    (hplace : Progress.place o ⟨d, [], []⟩ h = (none, attempts)) :
    o.apply d [h] = .ok ⟨[.unplaced 0 attempts], d, false⟩ := by
  rw [apply, hchecks]
  simp only [List.foldl_cons, List.foldl_nil, Progress.step, hplace]
  rfl

end

/-- An edit of one hunk with an anchor, under settings by which the verbatim search comes first. Where the
anchor occurs, the edit succeeds at the nearest occurrence, and its texts are replaced literally. Where it
does not, the verbatim search reports nothing, whatever the hint. -/
theorem apply_verbatim (o : Options Float) (d : Document) (h : Hunk) (hvalid : o.check = .ok ())
    (hfirst : o.order.head? = some .exact) (hanchor : h.anchor ≠ []) (hcheck : h.check 0 = .ok ()) :
    ((∃ start, OccursAt d.texts h.anchor start) →
      ∃ (c : Candidate Float) (outcome : Outcome Float), o.apply d [h] = .ok outcome ∧
        outcome.success = true ∧
        outcome.reports = [.placed 0 c [⟨.exact, some c.confidence⟩]] ∧
        c.IsVerbatim d.texts h.anchor (h.hint.filter (· < lineBound)) ∧
        outcome.document.texts = d.texts.take c.start ++ h.replacement ++ d.texts.drop c.stop) ∧
    ((∀ start, ¬OccursAt d.texts h.anchor start) →
      (∀ hint, (Matcher.exact : Matcher Float).scan d h.anchor hint = none) ∧
      ∃ (outcome : Outcome Float) (r : HunkReport Float), o.apply d [h] = .ok outcome ∧
        outcome.reports = [r] ∧ r.attempts.head? = some ⟨.exact, none⟩) := by
  have hchecks := Options.checkHunks_singleton hvalid hcheck
  have hplace := (⟨d, [], []⟩ : Progress Float).place_of_anchor o hanchor
  refine ⟨fun ⟨start, hocc⟩ => ?_, fun hnowhere => ?_⟩
  · rcases Matcher.scan_exact_cases (S := Float) rfl d hanchor (h.hint.map (shiftLine · [])) with
      ⟨-, hnone⟩ | ⟨found, hfound, hverbatim⟩
    · exact absurd hocc (hnone start)
    rw [o.locate_of_scan_exact hfirst hfound] at hplace
    refine ⟨found.candidate, _, Options.apply_of_placed hchecks hplace, rfl, rfl,
      ⟨hverbatim.nearest.of_shiftLine, hverbatim.stop, hverbatim.strategy, hverbatim.alternatives⟩, ?_⟩
    obtain ⟨hinside, hslice⟩ := hverbatim.nearest.occurs
    rw [hverbatim.stop]
    apply d.texts_spliceHunk h o.reindent (Nat.le_add_right _ _)
    · rwa [← Document.length_texts]
    · rw [Nat.add_sub_cancel_left]
      exact hslice
  · have hscan : ∀ hint, (Matcher.exact : Matcher Float).scan d h.anchor hint = none := by
      intro hint
      rcases Matcher.scan_exact_cases (S := Float) rfl d hanchor hint with
        ⟨hscan, -⟩ | ⟨found, -, hverbatim⟩
      · exact hscan
      · exact absurd hverbatim.nearest.occurs (hnowhere _)
    refine ⟨hscan, ?_⟩
    obtain ⟨found, attempts, hlocate⟩ :=
      o.locate_of_scan_exact_none hfirst (hscan (h.hint.map (shiftLine · [])))
    rw [hlocate] at hplace
    cases found with
    | none => exact ⟨_, _, Options.apply_of_unplaced hchecks hplace, rfl, rfl⟩
    | some c => exact ⟨_, _, Options.apply_of_placed hchecks hplace, rfl, rfl⟩

/-- The line of the hint is equal to the anchor up to blanks, and verbatim occurrences stand before and
behind it. -/
theorem apply_verbatim_betweenTwo :
    (Options.standard : Options Float).check = .ok () ∧
    OccursAt ["b", "x = 1", "x  = 1", "x = 1"] ["x = 1"] 3 ∧
    ∃ outcome : Outcome Float,
      Options.standard.apply ⟨[⟨"b", .lf⟩, ⟨"x = 1", .lf⟩, ⟨"x  = 1", .lf⟩, ⟨"x = 1", .none⟩]⟩
          [⟨["x = 1"], ["x = 2", "y"], some 2, none⟩] = .ok outcome ∧
        outcome.success = true ∧ outcome.document.texts = ["b", "x = 2", "y", "x  = 1", "x = 1"] := by
  have hocc : OccursAt ["b", "x = 1", "x  = 1", "x = 1"] ["x = 1"] 3 := by decide
  obtain ⟨c, outcome, happly, hsuccess, -, hverbatim, htexts⟩ := (apply_verbatim Options.standard
    ⟨[⟨"b", .lf⟩, ⟨"x = 1", .lf⟩, ⟨"x  = 1", .lf⟩, ⟨"x = 1", .none⟩]⟩
    ⟨["x = 1"], ["x = 2", "y"], some 2, none⟩ rfl rfl (by decide) rfl).1 ⟨3, hocc⟩
  have hstart : c.start = 1 := hverbatim.nearest.unique (by decide)
  rw [hverbatim.stop, hstart] at htexts
  exact ⟨rfl, hocc, outcome, happly, hsuccess, htexts⟩

/-- A hint far behind the last line, where the anchor stands in the first line and in the last. -/
theorem not_nearest_lineBound :
    (Options.standard : Options Float).check = .ok () ∧
    (⟨["a"], ["x"], some lineBound, none⟩ : Hunk).check 0 = .ok () ∧
    OccursAt ["a", "b", "a"] ["a"] 2 ∧
    ¬∃ (c : Candidate Float) (outcome : Outcome Float),
      Options.standard.apply ⟨[⟨"a", .lf⟩, ⟨"b", .lf⟩, ⟨"a", .lf⟩]⟩
          [⟨["a"], ["x"], some lineBound, none⟩] = .ok outcome ∧
        outcome.reports.map HunkReport.candidate = [some c] ∧
        IsNearest ["a", "b", "a"] ["a"] (some lineBound) c.start := by
  refine ⟨rfl, rfl, by decide, ?_⟩
  rintro ⟨c, outcome, happly, hreports, hnearest⟩
  cases happly
  cases hreports
  exact absurd (hnearest.nearest 2 (by decide)) (by decide)

end TextRepair
