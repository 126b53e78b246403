import TextRepair.Proofs.Apply.Refusal
import TextRepair.Proofs.Document.Reading

/-!
# All hunks or none

Whatever is not refused gets one report per hunk, in order, and a document: the given one with every hunk
spliced into the span that its report names if all hunks have found their place, and the given one as it
was otherwise (`Outcome.IsComplete`).

The reports and the document so far are tied together by an invariant of the run (`Progress.Tells`), which
says nothing of success: after a hunk without a place the later ones are still looked for in the document
as the earlier ones have left it, and only the end of the run decides which document is given out.
-/

namespace TextRepair

variable {S : Type}

/-! ### Reports and the document so far -/

/-- What a report says is of one piece: the hunk has found its place, and there is a span, or it has
not, and there is a failure. -/
structure HunkReport.IsCoherent (r : HunkReport S) : Prop where
  candidate : r.matched = true ↔ r.candidate.isSome
  failure : r.matched = true ↔ r.failure.isNone

/-- The document with a hunk spliced into the span that its report names, if it names one. -/
def Document.spliceReported (reindent : Bool) (d : Document) (reported : Hunk × HunkReport S) :
    Document :=
  match reported.2.candidate with
  | some c => d.spliceHunk c.start c.stop reported.1 reindent
  | none => d

/-- An application of `hunks` to `d` under way: there is one report for each hunk so far, and the
document so far is `d` with these hunks spliced as reported. -/
structure Progress.Tells (o : Options S) (d : Document) (hunks : List Hunk) (p : Progress S) :
    Prop where
  indices : p.reports.map HunkReport.index = List.range hunks.length
  coherent : ∀ r ∈ p.reports, r.IsCoherent
  document : p.document = (hunks.zip p.reports).foldl (Document.spliceReported o.reindent) d

namespace Progress.Tells

variable {o : Options S} {d : Document} {hunks : List Hunk} {p : Progress S}

theorem length_reports (htells : p.Tells o d hunks) : p.reports.length = hunks.length := by
  simpa using congrArg List.length htells.indices

theorem start (o : Options S) (d : Document) : Progress.Tells o d [] ⟨d, [], []⟩ :=
  ⟨rfl, fun _ hr => absurd hr List.not_mem_nil, rfl⟩

variable [Score S]

theorem step (htells : p.Tells o d hunks) (h : Hunk) : (p.step o h).Tells o d (hunks ++ [h]) := by
  have hlength := htells.length_reports
  -- One report is added in either case; a hunk without a place leaves the document so far as it is.
  unfold Progress.step
  rcases p.place o h with ⟨_ | c, attempts⟩
  · refine ⟨?_, ?_, ?_⟩
    · simp [htells.indices, List.range_succ, HunkReport.unplaced, hlength]
    · simpa [or_imp, forall_and] using ⟨htells.coherent, by constructor <;> simp [HunkReport.unplaced]⟩
    · rw [List.zip_append hlength.symm, List.foldl_append, ← htells.document]
      rfl
  · refine ⟨?_, ?_, ?_⟩
    · simp [htells.indices, List.range_succ, HunkReport.placed, hlength]
    · simpa [or_imp, forall_and] using ⟨htells.coherent, by constructor <;> simp [HunkReport.placed]⟩
    · rw [List.zip_append hlength.symm, List.foldl_append, ← htells.document]
      rfl

theorem foldl_step (htells : p.Tells o d hunks) (more : List Hunk) :
    (more.foldl (Progress.step o) p).Tells o d (hunks ++ more) := by
  induction more generalizing hunks p with
  | nil => simpa using htells
  | cons h rest ih => simpa using ih (htells.step h)

end Progress.Tells

/-! ### The outcome -/

/-- The outcome of applying `hunks` to `d`, as it has to be. -/
structure Outcome.IsComplete (o : Options S) (d : Document) (hunks : List Hunk) (outcome : Outcome S) :
    Prop where
  /-- One report for each hunk, in order. -/
  indices : outcome.reports.map HunkReport.index = List.range hunks.length
  coherent : ∀ r ∈ outcome.reports, r.IsCoherent
  success : outcome.success = true ↔ ∀ r ∈ outcome.reports, r.matched = true
  /-- All hunks are spliced into the spans reported, one after another, -/
  spliced : outcome.success = true →
    outcome.document = (hunks.zip outcome.reports).foldl (Document.spliceReported o.reindent) d
  /-- or nothing has changed. -/
  kept : outcome.success = false → outcome.document = d

variable [Score S]

/-- Hunks are refused, or there is an outcome as it has to be. -/
theorem Options.apply_cases (o : Options S) (d : Document) (hunks : List Hunk) :
    (∃ e, o.apply d hunks = .error e ∧ o.Refuses hunks e) ∨
    ∃ outcome, o.apply d hunks = .ok outcome ∧ ¬o.Exceeds hunks ∧
      (∀ h ∈ hunks, ∀ i, h.check i = .ok ()) ∧ outcome.IsComplete o d hunks := by
  unfold Options.apply
  rcases o.checkHunks_cases hunks with ⟨hcheck, hfits, hwell⟩ | ⟨e, hcheck, hrefuses⟩
  · have htells : (hunks.foldl (Progress.step o) ⟨d, [], []⟩).Tells o d hunks :=
      (Progress.Tells.start o d).foldl_step hunks
    rw [hcheck]
    refine .inr ⟨_, rfl, hfits, hwell, htells.indices, htells.coherent, List.all_eq_true, ?_, ?_⟩
    · intro hsuccess
      exact (if_pos hsuccess).trans htells.document
    · intro hfailure
      exact if_neg (Bool.eq_false_iff.mp hfailure)
  · rw [hcheck]
    exact .inl ⟨e, rfl, hrefuses⟩

theorem text_of_applyText {o : Options S} {text : String} {e : Edit} {result : TextOutcome S}
    (hresult : applyText o text e = .ok result) (hfailure : result.success = false) :
    result.text = text := by
  unfold applyText at hresult
  cases hoptions : o.check with
  | error e' =>
    rw [hoptions] at hresult
    cases hresult
  | ok u =>
    rw [hoptions] at hresult
    rcases o.apply_cases (Document.parse text) e.hunks with
      ⟨e', happly, -⟩ | ⟨outcome, happly, -, -, hcomplete⟩
    · rw [Options.applyEdit, happly] at hresult
      cases hresult
    · rw [Options.applyEdit, happly] at hresult
      cases hresult
      exact (congrArg Document.toText (hcomplete.kept hfailure)).trans (Document.toText_parse text)

/-- Applying hunks is all or nothing. It is refused just in case there are too many hunks or one of them
is malformed, and otherwise the outcome has a report for each hunk and either all of them spliced as
reported or the document as it was; so a text whose edit does not succeed is given back as it was. -/
theorem apply_atomic (o : Options S) (d : Document) (hunks : List Hunk) :
    ((∃ e, o.apply d hunks = .error e) ↔
      o.Exceeds hunks ∨ ∃ h ∈ hunks, ∃ index e, h.check index = .error e) ∧
    (∀ e, o.apply d hunks = .error e → o.Refuses hunks e) ∧
    (∀ outcome, o.apply d hunks = .ok outcome → outcome.IsComplete o d hunks) ∧
    ∀ (text : String) (e : Edit) (result : TextOutcome S),
      applyText o text e = .ok result → result.success = false → result.text = text := by
  rcases o.apply_cases d hunks with ⟨e, happly, hrefuses⟩ | ⟨outcome, happly, hfits, hwell, hcomplete⟩
  · rw [happly]
    refine ⟨⟨fun _ => hrefuses.cause, fun _ => ⟨e, rfl⟩⟩, ?_, nofun, fun _ _ _ => text_of_applyText⟩
    rintro e' ⟨⟩
    exact hrefuses
  · rw [happly]
    refine ⟨⟨nofun, ?_⟩, nofun, ?_, fun _ _ _ => text_of_applyText⟩
    · rintro (hexceeds | ⟨h, hh, index, e, hfault⟩)
      · exact absurd hexceeds hfits
      · exact absurd ((hwell h hh index).symm.trans hfault) nofun
    · rintro outcome' ⟨⟩
      exact hcomplete

end TextRepair
