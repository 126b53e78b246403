import TextRepair.Proofs.Apply.Atomic
import TextRepair.Proofs.Splice.Endings

/-!
# Documents with carriage returns

Hunks find the same places in a document with line feeds and in the one with a carriage return before each
of them, because searches and shifts look at texts only (`Progress.Mirrors`). So both applications are
refused together and report the same, and both documents have the same texts at all times.

They also differ in their terminators as they did at the start, hunk by hunk, for as long as there is a
terminated line to take the dominant terminator from (`Progress.Returns.foldl_step_of_terminated`). A hunk
that leaves no terminated line makes them one document, and no carriage return comes back
(`Progress.Returns.foldl_step_of_unterminated`). Main statement: `apply_withReturns`.
-/

namespace TextRepair

variable {S : Type}

/-- Two applications that differ in terminators only. -/
structure Progress.Mirrors (p p' : Progress S) : Prop where
  texts : p'.document.texts = p.document.texts
  shifts : p'.shifts = p.shifts
  reports : p'.reports = p.reports

theorem Progress.Mirrors.size_eq {p p' : Progress S} (hmirrors : p.Mirrors p') :
    p'.document.size = p.document.size := by
  rw [← Document.length_texts, hmirrors.texts, Document.length_texts]

/-- Two applications of which the second has carriage returns where the first has none. -/
structure Progress.Returns (p p' : Progress S) : Prop extends p.Mirrors p' where
  feeds : p.document.HasFeeds
  document : p'.document = p.document.withReturns

theorem Progress.Returns.eq_of_isUnterminated {p p' : Progress S} (hreturns : p.Returns p')
    (hd : p.document.IsUnterminated) : p' = p := by
  have hdocument := hreturns.document.trans hd.withReturns
  have hshifts := hreturns.shifts
  have hreports := hreturns.reports
  cases p
  cases p'
  simp only at hdocument hshifts hreports
  rw [hdocument, hshifts, hreports]

variable [Score S]

theorem Matcher.scan_congr {d d' : Document} (htexts : d'.texts = d.texts) (m : Matcher S)
    (anchor : List String) (hint : Option Nat) : m.scan d' anchor hint = m.scan d anchor hint := by
  cases m <;> simp only [scan, htexts]

theorem Options.locate_congr {d d' : Document} (htexts : d'.texts = d.texts) (o : Options S) (h : Hunk)
    (hint : Option Nat) : o.locate d' h hint = o.locate d h hint := by
  unfold locate
  induction o.matchers with
  | nil => rfl
  | cons m rest ih => simp only [locateWith, Matcher.scan_congr htexts, ih]

namespace Progress.Mirrors

variable {p p' : Progress S}

theorem place_eq (hmirrors : p.Mirrors p') (o : Options S) (h : Hunk) : p'.place o h = p.place o h := by
  unfold Progress.place
  simp only [hmirrors.size_eq, hmirrors.shifts, o.locate_congr hmirrors.texts]

theorem step (hmirrors : p.Mirrors p') (o : Options S) (h : Hunk) :
    (p.step o h).Mirrors (p'.step o h) := by
  unfold Progress.step
  rw [hmirrors.place_eq o h]
  rcases p.place o h with ⟨_ | c, attempts⟩
  · refine ⟨hmirrors.texts, hmirrors.shifts, ?_⟩
    simp only [hmirrors.reports]
  · have htexts := Document.texts_spliceHunk_congr hmirrors.texts c.start c.stop h o.reindent
    refine ⟨htexts, ?_, ?_⟩
    · simp only [hmirrors.shifts, hmirrors.size_eq, ← Document.length_texts, htexts]
    · simp only [hmirrors.reports]

theorem foldl_step (hmirrors : p.Mirrors p') (o : Options S) (hunks : List Hunk) :
    (hunks.foldl (Progress.step o) p).Mirrors (hunks.foldl (Progress.step o) p') := by
  induction hunks generalizing p p' with
  | nil => exact hmirrors
  | cons h rest ih => exact ih (hmirrors.step o h)

end Progress.Mirrors

/-! ### Applications to a document with carriage returns -/

namespace Progress.Returns

variable {p p' : Progress S}

theorem step (hreturns : p.Returns p') (hterminated : ¬p.document.IsUnterminated) (o : Options S)
    (h : Hunk) : (p.step o h).Returns (p'.step o h) := by
  refine ⟨hreturns.toMirrors.step o h, ?_, ?_⟩
  · unfold Progress.step
    rcases p.place o h with ⟨_ | c, attempts⟩
    · exact hreturns.feeds
    · exact hreturns.feeds.spliceHunk _ _ _ _
  · unfold Progress.step
    rw [hreturns.place_eq o h]
    rcases p.place o h with ⟨_ | c, attempts⟩
    · exact hreturns.document
    · simp only [hreturns.document]
      exact hreturns.feeds.spliceHunk_withReturns hterminated ..

theorem foldl_step_of_terminated (o : Options S) (hunks : List Hunk) :
    ∀ {p p' : Progress S}, p.Returns p' →
      (∀ k ≤ hunks.length, ¬((hunks.take k).foldl (Progress.step o) p).document.IsUnterminated) →
      (hunks.foldl (Progress.step o) p).Returns (hunks.foldl (Progress.step o) p') := by
  induction hunks with
  | nil => exact fun hreturns _ => hreturns
  | cons h rest ih =>
    intro p p' hreturns hterminated
    have hnow : ¬p.document.IsUnterminated := hterminated 0 (Nat.zero_le _)
    exact ih (hreturns.step hnow o h) fun k hk => hterminated (k + 1) (Nat.succ_le_succ hk)

theorem foldl_step_of_unterminated (o : Options S) (hunks : List Hunk) :
    ∀ {p p' : Progress S}, p.Returns p' →
      (∃ k ≤ hunks.length, ((hunks.take k).foldl (Progress.step o) p).document.IsUnterminated) →
      hunks.foldl (Progress.step o) p' = hunks.foldl (Progress.step o) p := by
  induction hunks with
  | nil =>
    rintro p p' hreturns ⟨k, -, hd⟩
    rw [List.take_nil] at hd
    exact hreturns.eq_of_isUnterminated hd
  | cons h rest ih =>
    rintro p p' hreturns ⟨k, hk, hd⟩
    by_cases hnow : p.document.IsUnterminated
    · rw [hreturns.eq_of_isUnterminated hnow]
    -- The two still differ, so the time at which they become one document is after this hunk.
    · cases k with
      | zero => exact absurd hd hnow
      | succ k => exact ih (hreturns.step hnow o h) ⟨k, Nat.le_of_succ_le_succ hk, hd⟩

end Progress.Returns

/-- The document after the first `k` hunks. -/
def Options.documentAfter (o : Options S) (d : Document) (hunks : List Hunk) (k : Nat) : Document :=
  ((hunks.take k).foldl (Progress.step o) ⟨d, [], []⟩).document

/-- Hunks are applied to a document with carriage returns as they are to the one without: they are refused
for the same faults, and otherwise the reports are the same. If at all times some line is terminated, the
resulting document has carriage returns again; if at some time no line is, it has none at all. -/
theorem apply_withReturns (o : Options S) {d : Document} (hd : d.HasFeeds) (hunks : List Hunk) :
    (∀ e, o.apply d.withReturns hunks = .error e ↔ o.apply d hunks = .error e) ∧
    ∀ outcome, o.apply d hunks = .ok outcome → ∃ outcome', o.apply d.withReturns hunks = .ok outcome' ∧
      outcome'.reports = outcome.reports ∧ outcome'.success = outcome.success ∧
      (outcome.success = false → outcome'.document = outcome.document.withReturns) ∧
      ((∀ k ≤ hunks.length, ¬(o.documentAfter d hunks k).IsUnterminated) →
        outcome'.document = outcome.document.withReturns) ∧
      (outcome.success = true → (∃ k ≤ hunks.length, (o.documentAfter d hunks k).IsUnterminated) →
        outcome'.document = outcome.document) := by
  have hreturns : Progress.Returns (⟨d, [], []⟩ : Progress S) ⟨d.withReturns, [], []⟩ :=
    ⟨⟨Document.texts_withEndings _ d, rfl, rfl⟩, hd, rfl⟩
  have hreports := (hreturns.toMirrors.foldl_step o hunks).reports
  have hlong := Progress.Returns.foldl_step_of_terminated o hunks hreturns
  have hshort := Progress.Returns.foldl_step_of_unterminated o hunks hreturns
  unfold Options.documentAfter Options.apply
  generalize hunks.foldl (Progress.step o) ⟨d, [], []⟩ = p at hreports hlong hshort ⊢
  generalize hunks.foldl (Progress.step o) ⟨d.withReturns, [], []⟩ = p' at hreports hlong hshort ⊢
  cases hcheck : o.checkHunks hunks with
  | error e => exact ⟨fun e' => Iff.rfl, nofun⟩
  | ok u =>
    refine ⟨fun e => iff_of_false nofun nofun, ?_⟩
    rintro outcome ⟨⟩
    refine ⟨_, rfl, hreports, congrArg (List.all · _) hreports, fun hfailure => ?_, fun hterminated => ?_,
      fun hsuccess hunterminated => ?_⟩
    · simp only [hreports]
      rw [if_neg (Bool.eq_false_iff.mp hfailure), if_neg (Bool.eq_false_iff.mp hfailure)]
    · simp only [hreports]
      split_ifs
      · exact (hlong hterminated).document
      · rfl
    · simp only [hreports]
      rw [if_pos hsuccess, if_pos hsuccess, hshort hunterminated]

/-- A line is replaced by two and one is put at the unterminated end. -/
theorem apply_withReturns_twoHunks :
    ∃ outcome : Outcome Float,
      Options.standard.apply (Document.parse "a\r\nb")
          [⟨["a"], ["x", "y"], some 0, none⟩, ⟨[], ["c"], none, some 2⟩] = .ok outcome ∧
        outcome.success = true ∧ outcome.document = Document.parse "x\r\ny\r\nb\r\nc" := by
  let d : Document := ⟨[⟨"a", .lf⟩, ⟨"b", .none⟩]⟩
  obtain ⟨-, hok⟩ := apply_withReturns (Options.standard : Options Float) (d := d) (by decide)
    [⟨["a"], ["x", "y"], some 0, none⟩, ⟨[], ["c"], none, some 2⟩]
  obtain ⟨outcome, happly, -, hsuccess, -, hreturns, -⟩ := hok _ rfl
  refine ⟨outcome, happly, hsuccess.trans (by decide +kernel), ?_⟩
  rw [hreturns (by decide +kernel)]
  decide +kernel

/-- The last terminated line is taken out before a line is put in. -/
theorem not_withReturns_emptied :
    ¬∀ (d : Document) (hunks : List Hunk) (outcome outcome' : Outcome Float), d.HasFeeds →
      (∀ line ∈ d.lines.dropLast, line.ending ≠ .none) → ¬d.IsUnterminated →
      Options.standard.apply d hunks = .ok outcome →
      Options.standard.apply d.withReturns hunks = .ok outcome' →
      outcome'.document = outcome.document.withReturns := by
  intro hclaim
  have hdocument := hclaim ⟨[⟨"a", .lf⟩]⟩ [⟨["a"], [], some 0, none⟩, ⟨[], ["b"], none, some 0⟩] _ _
    (by decide) (by decide) (by decide) rfl rfl
  revert hdocument
  decide +kernel

end TextRepair
