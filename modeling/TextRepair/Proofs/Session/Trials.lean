import TextRepair.Proofs.Ledger
import TextRepair.Proofs.Session.Course

/-!
# Every trial takes its course

The program of a trial, run with and without notes, against `TrialCourse`. A trial works on a cycle
whose ledger holds its hypothesis between those done with and those to come (`CycleRun.Working`), and
leaves it with one more trial and with the hypothesis settled (`CycleRun.Tried`). There is a lemma for
each way in which the program ends a trial, and one for each of its functions.
-/

namespace TextRepair

theorem Hypothesis.isActive_settled (h : Hypothesis) (trial : Trial) :
    Status.isActive (h.settled trial .stopped).status = true := by
  rw [settled]
  cases trial.applied <;> rfl

namespace CycleRun

/-- The cycle of `run` is that of `base` with these phases and trials behind the earlier ones. -/
structure Extends (base : CycleRun) (phases : List Phase) (trials : List Trial) (run : CycleRun) :
    Prop where
  cycle : run.cycle =
    { base.cycle with
      phases := base.cycle.phases ++ phases
      trials := base.cycle.trials ++ trials
      outcome := run.cycle.outcome
      signatureAfter := run.cycle.signatureAfter }
  rejections : run.rejections = base.rejections

theorem Extends.trans {a b c : CycleRun} {phases phases' : List Phase} {trials trials' : List Trial}
    (h : a.Extends phases trials b) (h' : b.Extends phases' trials' c) :
    a.Extends (phases ++ phases') (trials ++ trials') c := by
  refine ⟨?_, h'.rejections.trans h.rejections⟩
  have hcycle := h'.cycle
  rw [h.cycle] at hcycle
  simpa only [List.append_assoc] using hcycle

/-- How things stand in a cycle with these hypotheses. -/
structure StandsAt (run : CycleRun) (standing : Standing) (hypotheses : List Hypothesis) : Prop where
  hypotheses : run.ledger.hypotheses = hypotheses
  outcome : run.cycle.outcome = standing.outcome
  mended : run.mended = standing.mended?
  isCancelled : run.isCancelled = standing.isStopped

/-- A cycle that works on `h`, as far as `trial`: the hypotheses of `done` come before it and those of
`rest` after it. -/
structure Working (done rest : List Hypothesis) (h : Hypothesis) (trial : Trial) (run : CycleRun) :
    Prop where
  stands : run.StandsAt .going (done ++ h.settled trial .stopped :: rest)
  distinct : ∀ x ∈ done, x.id ≠ h.id
  id_eq : trial.hypothesisId = h.id
  unrejected : trial.rejection = none

/-- The cycle of `base` after the trial of `h`. -/
structure Tried (done rest : List Hypothesis) (h : Hypothesis) (base : CycleRun) (trial : Trial)
    (standing : Standing) (phases : List Phase) (run : CycleRun) : Prop where
  trace : base.Extends phases [trial] run
  stands : run.StandsAt standing (done ++ h.settled trial standing :: rest)

variable {done rest : List Hypothesis} {h : Hypothesis} {trial : Trial} {run : CycleRun}

/-- Notes the first diagnostic of a check. -/
def sees (run : CycleRun) (signature : Option Signature) : CycleRun :=
  { run with cycle := { run.cycle with signatureAfter := signature } }

/-- What a checkpoint leaves of a cycle that is asked to stop. -/
def stop (run : CycleRun) : CycleRun :=
  { run.abort CallError.cancelled.message with isCancelled := true }

namespace Working

theorem going (hw : run.Working done rest h trial) : run.isCancelled = false :=
  hw.stands.isCancelled

theorem of_eq (hw : run.Working done rest h trial) (run' : CycleRun)
    (hledger : run'.ledger = run.ledger) (houtcome : run'.cycle.outcome = run.cycle.outcome)
    (hmended : run'.mended = run.mended) (hcancelled : run'.isCancelled = run.isCancelled) :
    run'.Working done rest h trial :=
  ⟨⟨by rw [hledger, hw.stands.hypotheses], houtcome.trans hw.stands.outcome,
    hmended.trans hw.stands.mended, hcancelled.trans hw.stands.isCancelled⟩, hw.distinct, hw.id_eq,
    hw.unrejected⟩

theorem enter (hw : run.Working done rest h trial) (phase : Phase) :
    (run.enter phase).Working done rest h trial :=
  hw.of_eq _ rfl rfl rfl rfl

theorem tell (hw : run.Working done rest h trial) (events : List Event) :
    (run.tell events).Working done rest h trial :=
  hw.of_eq _ rfl rfl rfl rfl

theorem sees (hw : run.Working done rest h trial) (signature : Option Signature) :
    (run.sees signature).Working done rest h trial :=
  hw.of_eq _ rfl rfl rfl rfl

theorem note (hw : run.Working done rest h trial) (trial' : Trial)
    (hid : trial'.hypothesisId = trial.hypothesisId) (hhunks : trial'.hunks = trial.hunks)
    (happlied : trial'.applied = trial.applied) (hrejection : trial'.rejection = trial.rejection) :
    run.Working done rest h trial' := by
  refine ⟨?_, hw.distinct, hid.trans hw.id_eq, hrejection.trans hw.unrejected⟩
  have hsettled : h.settled trial' .stopped = h.settled trial .stopped := by
    rw [Hypothesis.settled, Hypothesis.settled, hhunks, happlied, hrejection]
  rw [hsettled]
  exact hw.stands

theorem moveLedger_eq (hw : run.Working done rest h trial) (target : Status)
    (allowed : Status → Bool) (f : Hypothesis → Hypothesis)
    (hallowed : allowed (h.settled trial .stopped).status = true) :
    run.moveLedger (fun l => l.move trial.hypothesisId target allowed f)
      = { run with
          ledger.hypotheses :=
            done ++ { f (h.settled trial .stopped) with status := target } :: rest } := by
  have hid : trial.hypothesisId = (h.settled trial .stopped).id := hw.id_eq
  rw [CycleRun.moveLedger, hid,
    Ledger.move_eq_ok target f hw.stands.hypotheses hw.distinct hallowed]

theorem attempt (hw : run.Working done rest h trial) {edit : Edit} (happlied : trial.applied = false)
    (hedit : trial.edit = some edit) :
    (run.moveLedger (·.attempt trial.hypothesisId edit.hunks)).Working done rest h
      { trial with applied := true } := by
  have hselected : decide ((h.settled trial .stopped).status = .selected) = true := by
    simp [Hypothesis.settled, Standing.status, happlied]
  have hmove := hw.moveLedger_eq .patchAttempted (· = .selected)
    (fun h => { h with hunks := edit.hunks }) hselected
  have hsettled : h.settled { trial with applied := true } .stopped
      = { h.settled trial .stopped with hunks := edit.hunks, status := .patchAttempted } := by
    simp [Hypothesis.settled, Standing.status, Trial.hunks, hedit]
  unfold Ledger.attempt
  rw [hmove]
  refine ⟨⟨?_, hw.stands.outcome, hw.stands.mended, hw.stands.isCancelled⟩, hw.distinct, hw.id_eq,
    hw.unrejected⟩
  rw [hsettled]

/-! ### The ends of a trial -/

theorem stop (hw : run.Working done rest h trial) :
    run.Tried done rest h trial .stopped [.cycleAborted] (run.stop.keep trial) where
  trace := ⟨rfl, rfl⟩
  stands := ⟨hw.stands.hypotheses, rfl, hw.stands.mended, rfl⟩

theorem reject (hw : run.Working done rest h trial) (reason : String) :
    run.Tried done rest h (trial.rejectedFor reason) .going [.hypothesisRejected]
      (run.reject trial reason) := by
  have htell := hw.tell [.hypothesisRejected run.cycle.index trial.hypothesisId reason]
  have hmove := htell.moveLedger_eq .rejected Status.isActive
    (fun h => { h with rejection := some reason }) (h.isActive_settled trial)
  unfold CycleRun.reject Ledger.reject
  simp only [hmove]
  exact ⟨⟨rfl, rfl⟩, ⟨rfl, hw.stands.outcome, hw.stands.mended, hw.stands.isCancelled⟩⟩

theorem succeed (hw : run.Working done rest h trial) (candidate : Document) :
    run.Tried done rest h trial (.mended candidate) [.cycleSucceeded]
      (((run.moveLedger (·.accept trial.hypothesisId)).succeed candidate).keep trial) := by
  have hmove := hw.moveLedger_eq .accepted Status.isActive (fun h => h) (h.isActive_settled trial)
  unfold Ledger.accept
  simp only [hmove]
  exact ⟨⟨rfl, rfl⟩, ⟨rfl, rfl, rfl, hw.stands.isCancelled⟩⟩

end Working

theorem Tried.of_extends {base mid : CycleRun} {standing : Standing} {phases phases' : List Phase}
    (h₀ : base.Extends phases [] mid) (ht : mid.Tried done rest h trial standing phases' run) :
    base.Tried done rest h trial standing (phases ++ phases') run :=
  ⟨h₀.trans ht.trace, ht.stands⟩

theorem Extends.enter (run : CycleRun) (phase : Phase) : run.Extends [phase] [] (run.enter phase) :=
  ⟨by rw [List.append_nil]; rfl, rfl⟩

theorem Extends.moveLedger {base run : CycleRun} {phases : List Phase} {trials : List Trial}
    (h₀ : base.Extends phases trials run) (move : Ledger → Except LedgerError Ledger) :
    base.Extends phases trials (run.moveLedger move) := by
  unfold CycleRun.moveLedger
  split
  · exact ⟨h₀.cycle, h₀.rejections⟩
  · exact h₀

/-- The cycle of `base` has come to its end by a trial of this course. -/
def EndsBy (done rest : List Hypothesis) (h : Hypothesis) (base : CycleRun)
    (course : Trial → Standing → List Phase → List Call → Prop) (run : CycleRun)
    (calls : List Call) : Prop :=
  ∃ trial standing phases, course trial standing phases calls ∧
    base.Tried done rest h trial standing phases run

theorem EndsBy.of_extends {base mid : CycleRun} {phases : List Phase} {calls calls' : List Call}
    {course course' : Trial → Standing → List Phase → List Call → Prop}
    (he : mid.EndsBy done rest h course run calls) (h₀ : base.Extends phases [] mid)
    (hcourse : ∀ trial standing phases', course trial standing phases' calls →
      course' trial standing (phases ++ phases') calls') :
    base.EndsBy done rest h course' run calls' := by
  obtain ⟨trial, standing, phases', hmid, ht⟩ := he
  exact ⟨trial, standing, _, hcourse _ _ _ hmid, ht.of_extends h₀⟩

end CycleRun

/-! ### The functions of a trial -/

section Functions

variable {W : Type} (config : SessionConfig) (c : Collaborators W) (context : Context)
  {done rest : List Hypothesis} {h : Hypothesis} {trial : Trial} {run : CycleRun}

theorem observes_checkpoint (run : CycleRun) :
    Observes (checkpoint c.observed run) (checkpoint c run) fun run' calls =>
      run' = run.stop ∧ calls = [.polled true] ∨ run' = run ∧ calls = [.polled false] := by
  refine Observes.call fun stop => ?_
  cases stop with
  | false => exact Observes.pure (Or.inr ⟨rfl, rfl⟩)
  | true => exact Observes.pure (Or.inl ⟨rfl, rfl⟩)

theorem observes_checkCandidate (candidate : Document) (hw : run.Working done rest h trial) :
    Observes (checkCandidate config c.observed context candidate trial run)
      (checkCandidate config c context candidate trial run)
      (run.EndsBy done rest h (CheckCourse config context candidate trial)) := by
  unfold checkCandidate
  refine (observes_checkpoint c run).bind ?_
  rintro run' _ (⟨hrun, rfl⟩ | ⟨hrun, rfl⟩) <;> rw [hrun]
  · exact Observes.pure ⟨_, _, _, .stopped, hw.stop⟩
  simp only [hw.going, Bool.false_eq_true, if_false]
  have hverify := hw.enter .verifying
  refine Observes.call fun answer => ?_
  cases answer with
  | error e =>
    exact Observes.pure ⟨_, _, _, .failed e, (hverify.reject _).of_extends (.enter _ _)⟩
  | ok report =>
    have hchecked (verdict : Verdict) :
        ((run.enter .verifying).sees (Signature.first? report.signatures)).Working done rest h
          (trial.checked verdict report) :=
      ((hverify.note (trial.checked verdict report) rfl rfl rfl rfl).sees _)
    have hextends : run.Extends [.verifying] []
        ((run.enter .verifying).sees (Signature.first? report.signatures)) :=
      ⟨by rw [List.append_nil]; rfl, rfl⟩
    simp only
    cases hjudged : judge context.target context.baseline report.signatures with
    | fixed =>
      exact Observes.pure ⟨_, _, _, .fixed report hjudged,
        ((hchecked .fixed).succeed candidate).of_extends hextends⟩
    | targetPersists =>
      exact Observes.pure ⟨_, _, _, .turnedDown report _ hjudged nofun,
        ((hchecked .targetPersists).reject _).of_extends hextends⟩
    | newError signature =>
      exact Observes.pure ⟨_, _, _, .turnedDown report _ hjudged nofun,
        ((hchecked (.newError signature)).reject _).of_extends hextends⟩

theorem observes_applyCandidate (d : Document) (edit : Edit) (hw : run.Working done rest h trial)
    (happlied : trial.applied = false) (hedit : trial.edit = some edit) :
    Observes (applyCandidate config c.observed context d edit trial run)
      (applyCandidate config c context d edit trial run)
      (run.EndsBy done rest h (EditCourse config context d edit trial)) := by
  unfold applyCandidate
  have happly := hw.enter .applying
  simp only
  cases hresult : config.apply.applyEdit d edit with
  | error e =>
    exact Observes.pure ⟨_, _, _, .malformed e hresult, (happly.reject _).of_extends (.enter _ _)⟩
  | ok out =>
    have htold (trial' : Trial) (hid : trial'.hypothesisId = trial.hypothesisId)
        (happlied : trial'.applied = trial.applied) (hedit : trial'.edit = trial.edit)
        (hrejection : trial'.rejection = trial.rejection) :
        ((run.enter .applying).tell out.events).Working done rest h trial' :=
      (happly.note trial' hid (by rw [Trial.hunks, Trial.hunks, happlied, hedit]) happlied
        hrejection).tell _
    have hextends : run.Extends [.applying] [] ((run.enter .applying).tell out.events) :=
      ⟨by rw [List.append_nil]; rfl, rfl⟩
    simp only
    cases hsuccess : out.success with
    | false =>
      exact Observes.pure ⟨_, _, _, .unplaced out hresult hsuccess,
        ((htold { trial with reports := out.reports } rfl rfl rfl rfl).reject _).of_extends hextends⟩
    | true =>
      have hattempted := (htold { trial with reports := out.reports } rfl rfl rfl rfl).attempt
        happlied hedit
      refine (observes_checkCandidate config c context out.document hattempted).mono ?_
      intro run' calls hends
      exact hends.of_extends (hextends.moveLedger _) fun _ _ _ hcheck =>
        .applied out hresult hsuccess hcheck

theorem observes_generate (d : Document) (plan : String) (hw : run.Working done rest h trial)
    (happlied : trial.applied = false) :
    Observes (generate config c.observed context d plan trial run)
      (generate config c context d plan trial run)
      (run.EndsBy done rest h (PlanCourse config context d plan trial)) := by
  unfold generate
  refine (observes_checkpoint c run).bind ?_
  rintro run' _ (⟨hrun, rfl⟩ | ⟨hrun, rfl⟩) <;> rw [hrun]
  · exact Observes.pure ⟨_, _, _, .stopped, hw.stop⟩
  simp only [hw.going, Bool.false_eq_true, if_false]
  have hgenerate := hw.enter .generating
  refine Observes.call fun answer => ?_
  cases answer with
  | error e =>
    exact Observes.pure ⟨_, _, _, .failed e, (hgenerate.reject _).of_extends (.enter _ _)⟩
  | ok edit =>
    have hnoted := hgenerate.note { trial with edit := some edit } rfl
      (by simp [Trial.hunks, happlied]) rfl rfl
    refine (observes_applyCandidate config c context d edit hnoted happlied rfl).mono ?_
    intro run' calls hends
    exact hends.of_extends (.enter _ _) fun _ _ _ hedit => .edited edit hedit

/-- A trial takes its course, and leaves the hypotheses before and after its own as they are. -/
theorem observes_tryHypothesis (d : Document)
    (hw : run.Working done rest h (Trial.ofHypothesis h)) :
    Observes (tryHypothesis config c.observed context d { h with status := .selected } run)
      (tryHypothesis config c context d { h with status := .selected } run)
      (run.EndsBy done rest h (TrialCourse config context d h)) := by
  unfold tryHypothesis
  refine (observes_checkpoint c run).bind ?_
  rintro run' _ (⟨hrun, rfl⟩ | ⟨hrun, rfl⟩) <;> rw [hrun]
  · exact Observes.pure ⟨_, _, _, .stopped, hw.stop⟩
  simp only [hw.going, Bool.false_eq_true, if_false]
  have hplan := hw.enter .planning
  refine Observes.call fun answer => ?_
  cases answer with
  | error e =>
    exact Observes.pure ⟨_, _, _, .failed e, (hplan.reject _).of_extends (.enter _ _)⟩
  | ok plan =>
    have hnoted := hplan.note { Trial.ofHypothesis h with plan := some plan } rfl rfl rfl rfl
    refine (observes_generate config c context d plan hnoted rfl).mono ?_
    intro run' calls hends
    exact hends.of_extends (.enter _ _) fun _ _ _ hplan => .planned plan hplan

end Functions

end TextRepair
