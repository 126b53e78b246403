import TextRepair.Proofs.Apply.Atomic

/-!
# Edits in batches

Applying two lists of hunks at once is applying the second to what the first has made of the document
(`apply_append`), provided that the hunks of the second list are looked for by their anchors alone.

An application that goes on remembers two things that a new one does not know: the shifts so far and the
number of reports. Hunks without a hint look at neither, except for the index of a report, so the two runs
stay in step whatever the first has done (`Progress.Resumes`). They also stay in step after a failure. Then
neither of them succeeds, because no report is ever taken back.
-/

namespace TextRepair

variable {S : Type}

/-- A hunk of which nothing is known but its anchor. -/
def Hunk.IsUnguided (h : Hunk) : Prop :=
  h.anchor ≠ [] ∧ h.hint = none

/-- The report of a hunk that comes after `earlier` others. -/
def HunkReport.later (earlier : Nat) (r : HunkReport S) : HunkReport S :=
  { r with index := r.index + earlier }

/-- `q` does what `p` does behind the reports of an earlier application. -/
structure Progress.Resumes (earlier : List (HunkReport S)) (p q : Progress S) : Prop where
  document : q.document = p.document
  reports : q.reports = earlier ++ p.reports.map (HunkReport.later earlier.length)

variable [Score S]

theorem Progress.place_of_isUnguided {h : Hunk} (hunguided : h.IsUnguided) (o : Options S)
    (p : Progress S) : p.place o h = o.locate p.document h none := by
  obtain ⟨hanchor, hhint⟩ := hunguided
  rw [p.place_of_anchor o hanchor, hhint, Option.map_none]

namespace Progress.Resumes

variable {earlier : List (HunkReport S)} {p q : Progress S}

theorem step (hresumes : Resumes earlier p q) {h : Hunk} (hunguided : h.IsUnguided) (o : Options S) :
    Resumes earlier (p.step o h) (q.step o h) := by
  have hplace : q.place o h = p.place o h := by
    rw [place_of_isUnguided hunguided, place_of_isUnguided hunguided, hresumes.document]
  have hindex : q.reports.length = p.reports.length + earlier.length := by
    rw [hresumes.reports, List.length_append, List.length_map, Nat.add_comm]
  unfold Progress.step
  rw [hplace]
  rcases p.place o h with ⟨_ | c, attempts⟩
  · refine ⟨hresumes.document, ?_⟩
    simp only [hresumes.reports, List.map_append, List.append_assoc]
    rw [← hresumes.reports, hindex]
    rfl
  · refine ⟨?_, ?_⟩
    · simp only [hresumes.document]
    · simp only [hresumes.reports, List.map_append, List.append_assoc]
      rw [← hresumes.reports, hindex]
      rfl

theorem foldl_step (o : Options S) (hunks : List Hunk) (hunguided : ∀ h ∈ hunks, h.IsUnguided) :
    ∀ {p q : Progress S}, Resumes earlier p q →
      Resumes earlier (hunks.foldl (Progress.step o) p) (hunks.foldl (Progress.step o) q) := by
  induction hunks with
  | nil =>
    intro p q hresumes
    exact hresumes
  | cons h rest ih =>
    intro p q hresumes
    have hh := hunguided h List.mem_cons_self
    exact ih (fun g hg => hunguided g (List.mem_cons_of_mem _ hg)) (hresumes.step hh o)

end Progress.Resumes

/-! ### Success -/

namespace Options

/-- The application of hunks that are not refused. -/
def run (o : Options S) (d : Document) (hunks : List Hunk) : Progress S :=
  hunks.foldl (Progress.step o) ⟨d, [], []⟩

theorem length_reports_run (o : Options S) (d : Document) (hunks : List Hunk) :
    (o.run d hunks).reports.length = hunks.length :=
  ((Progress.Tells.start o d).foldl_step hunks).length_reports

theorem apply_of_checkHunks {o : Options S} {hunks : List Hunk} (hcheck : o.checkHunks hunks = .ok ())
    (d : Document) :
    o.apply d hunks = .ok
      { reports := (o.run d hunks).reports
        document := if (o.run d hunks).reports.all (·.matched) then (o.run d hunks).document else d
        success := (o.run d hunks).reports.all (·.matched) } := by
  rw [apply, hcheck]
  rfl

theorem apply_succeeds_iff (o : Options S) (d : Document) (hunks : List Hunk) (outcome : Outcome S) :
    o.apply d hunks = .ok outcome ∧ outcome.success = true ↔
      o.checkHunks hunks = .ok () ∧ (∀ r ∈ (o.run d hunks).reports, r.matched = true) ∧
        outcome = ⟨(o.run d hunks).reports, (o.run d hunks).document, true⟩ := by
  rw [← List.all_eq_true]
  cases hcheck : o.checkHunks hunks with
  | error e =>
    have happly : o.apply d hunks = .error e := by rw [apply, hcheck]; rfl
    rw [happly]
    simp
  | ok u =>
    rw [apply_of_checkHunks hcheck]
    constructor
    · rintro ⟨happly, hsuccess⟩
      cases happly
      simp only at hsuccess
      simp only [hsuccess, if_true, and_self]
    · rintro ⟨-, hmatched, rfl⟩
      simp only [hmatched, if_true, and_self]

end Options

/-- Hunks that are looked for by their anchors alone may be applied at once or in two batches: one way
succeeds if and only if the other does, with the same document and the same reports, which count on from
those of the first batch. -/
theorem apply_append {o : Options S} (hlimit : o.maxHunks = none) (d : Document) (first : List Hunk)
    {rest : List Hunk} (hunguided : ∀ h ∈ rest, h.IsUnguided) (outcome : Outcome S) :
    o.apply d (first ++ rest) = .ok outcome ∧ outcome.success = true ↔
      ∃ before after, (o.apply d first = .ok before ∧ before.success = true) ∧
        (o.apply before.document rest = .ok after ∧ after.success = true) ∧
        outcome = ⟨before.reports ++ after.reports.map (HunkReport.later first.length), after.document,
          true⟩ := by
  have hstart : Progress.Resumes (o.run d first).reports ⟨(o.run d first).document, [], []⟩
      (o.run d first) := ⟨rfl, (List.append_nil _).symm⟩
  have hresumes := Progress.Resumes.foldl_step o rest hunguided hstart
  have hrun : o.run d (first ++ rest) = rest.foldl (Progress.step o) (o.run d first) := List.foldl_append
  have hreports : (o.run d (first ++ rest)).reports = (o.run d first).reports ++
      (o.run (o.run d first).document rest).reports.map (HunkReport.later first.length) := by
    rw [hrun, hresumes.reports, o.length_reports_run]
    rfl
  have hdocument : (o.run d (first ++ rest)).document = (o.run (o.run d first).document rest).document := by
    rw [hrun, hresumes.document]
    rfl
  simp only [Options.apply_succeeds_iff]
  rw [Options.checkHunks_append hlimit, hreports, hdocument]
  constructor
  · rintro ⟨⟨hfirst, hrest⟩, hmatched, rfl⟩
    rw [List.forall_mem_append, List.forall_mem_map] at hmatched
    exact ⟨_, _, ⟨hfirst, hmatched.1, rfl⟩, ⟨hrest, hmatched.2, rfl⟩, rfl⟩
  · rintro ⟨_, _, ⟨hfirst, hmatched, rfl⟩, ⟨hrest, hmatched', rfl⟩, rfl⟩
    refine ⟨⟨hfirst, hrest⟩, ?_, rfl⟩
    rw [List.forall_mem_append, List.forall_mem_map]
    exact ⟨hmatched, hmatched'⟩

/-- The second batch changes what the first has put in. -/
theorem apply_append_twoSteps :
    let o : Options Rat := Options.standard
    let d := Document.mk [⟨"a", .lf⟩, ⟨"b", .crlf⟩]
    let first := [Hunk.replacing ["a"] ["x", "y"]]
    let rest := [Hunk.replacing ["y", "b"] ["z"], Hunk.replacing ["x"] []]
    (∀ h ∈ rest, h.IsUnguided) ∧
      ∃ outcome before after, (o.apply d (first ++ rest) = .ok outcome ∧ outcome.success = true) ∧
        (o.apply d first = .ok before ∧ before.success = true) ∧
        (o.apply before.document rest = .ok after ∧ after.success = true) ∧
        outcome.document.texts = ["z"] ∧ outcome.document = after.document := by
  intro o d first rest
  have hunguided : ∀ h ∈ rest, h.IsUnguided := by
    simp [rest, Hunk.IsUnguided, Hunk.replacing]
  have hsuccess : ∃ outcome, o.apply d (first ++ rest) = .ok outcome ∧ outcome.success = true ∧
      outcome.document.texts = ["z"] := ⟨_, rfl, by decide +kernel, by decide +kernel⟩
  obtain ⟨outcome, happly, hsuccess, htexts⟩ := hsuccess
  obtain ⟨before, after, hbefore, hafter, houtcome⟩ :=
    (apply_append rfl d first hunguided outcome).mp ⟨happly, hsuccess⟩
  refine ⟨hunguided, outcome, before, after, ⟨happly, hsuccess⟩, hbefore, hafter, htexts, ?_⟩
  rw [houtcome]

end TextRepair
