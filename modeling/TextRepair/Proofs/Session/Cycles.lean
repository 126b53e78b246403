import TextRepair.Proofs.Session.Trials

/-!
# Every session takes its course

The programs of the rounds, the cycles and the whole session, run with and without notes, against
`Rounds`, `CycleCourse` and `SessionCourse`. The rounds are an induction on the hypotheses still to
come, the session is one on the cycles that remain. Main statement, `sessionCourse`: the result and the
calls of any session are those of some course.
-/

namespace TextRepair

/-! ### What courses say -/

section Courses

variable {config : SessionConfig} {context : Context} {d : Document}

theorem Rounds.length_eq {pending after : List Hypothesis} {trials : List Trial}
    {standing : Standing} {phases : List Phase} {calls : List Call}
    (hr : Rounds config context d pending trials standing phases calls after) :
    after.length = pending.length := by
  induction hr with
  | exhausted => rfl
  | stopped => rfl
  | rejected _ _ ih => rw [List.length_cons, List.length_cons, ih]
  | ended => rfl

theorem Rounds.ne_nil {pending after : List Hypothesis} {trials : List Trial}
    {standing : Standing} {phases : List Phase} {calls : List Call}
    (hr : Rounds config context d pending trials standing phases calls after) (hne : pending ≠ []) :
    after ≠ [] := by
  rw [← List.length_pos_iff, hr.length_eq, List.length_pos_iff]
  exact hne

theorem Rounds.rejected_of_going {pending after : List Hypothesis} {trials : List Trial}
    {standing : Standing} {phases : List Phase} {calls : List Call}
    (hr : Rounds config context d pending trials standing phases calls after)
    (hgoing : standing = .going) : ∀ h ∈ after, h.status = .rejected := by
  induction hr with
  | exhausted => exact nofun
  | stopped => cases hgoing
  | rejected _ _ ih =>
    intro h hh
    rcases List.mem_cons.mp hh with rfl | hh
    · rfl
    · exact ih hgoing h hh
  | ended _ hover => exact absurd hgoing hover

theorem CycleCourse.outcome_of_isCancelled
    {index : Nat} {startedAt : Timestamp}
    {evidence : List String} {finished : Finished} {calls : List Call}
    (hc : CycleCourse config index startedAt d evidence finished calls)
    (hstop : finished.isCancelled = true) : finished.cycle.outcome ≠ .succeeded := by
  cases hc with
  | undiagnosed => cases hstop
  | clean => cases hstop
  | stopped => exact nofun
  | unadvised => cases hstop
  | unlisted => cases hstop
  | unusable => cases hstop
  | exhausted => cases hstop
  | @ended _ _ _ _ _ _ _ standing =>
    cases standing with
    | going => cases hstop
    | stopped => exact nofun
    | mended => cases hstop

end Courses

/-! ### Rounds -/

section Programs

variable {W : Type} (config : SessionConfig) (c : Collaborators W) (context : Context) (d : Document)

/-- A cycle that works on the hypothesis at `place`. -/
def CycleRun.at (run : CycleRun) (place : Nat) : CycleRun :=
  { run with cycle := { run.cycle with active := some place } }

/-- A cycle that has worked on `n` hypotheses from `place` on. -/
def CycleRun.past (run : CycleRun) (place : Nat) : Nat → CycleRun
  | 0 => run
  | n + 1 => run.at (place + n)

theorem CycleRun.rejections_past (run : CycleRun) (place n : Nat) :
    (run.past place n).rejections = run.rejections := by
  cases n <;> rfl

theorem CycleRun.cycle_past {run : CycleRun} (hactive : run.cycle.active = none) (n : Nat) :
    (run.past 0 n).cycle = { run.cycle with active := lastIndex n } := by
  cases n with
  | zero =>
    rw [past, lastIndex, ← hactive]
  | succ n =>
    rw [past, Nat.zero_add]
    rfl

/-- The cycle of `base` has come to its end by these rounds. -/
def CycleRun.EndsByRounds (base : CycleRun) (done pending : List Hypothesis) (run : CycleRun)
    (calls : List Call) : Prop :=
  ∃ trials standing phases after, Rounds config context d pending trials standing phases calls after ∧
    (base.past done.length trials.length).Extends phases trials run ∧
    run.StandsAt standing (done ++ after)

/-- The cycle goes to a hypothesis. -/
def CycleRun.select (run : CycleRun) (h : Hypothesis) (ledger : Ledger) : CycleRun :=
  let run := { run with ledger }.enter .hypothesisSelected
  { run with cycle := { run.cycle with active := ledger.hypotheses.findIdx? (·.id = h.id) } }

theorem CycleRun.extends_select {run : CycleRun} {done rest : List Hypothesis} {h : Hypothesis}
    (hl : run.ledger.Pending done (h :: rest)) :
    (run.at done.length).Extends [.hypothesisSelected] []
      (run.select { h with status := .selected }
        { run.ledger with hypotheses := done ++ { h with status := .selected } :: rest }) := by
  have hplace : (done ++ { h with status := .selected } :: rest).findIdx? (·.id = h.id)
      = some done.length := by
    apply Ledger.findIdx?_append_cons
    · intro x hx
      exact decide_eq_false (hl.id_ne x hx)
    · exact decide_eq_true rfl
  refine ⟨?_, rfl⟩
  simp only [CycleRun.select, hplace, List.append_nil]
  rfl

theorem CycleRun.Extends.at {a b : CycleRun} {phases : List Phase} {trials : List Trial}
    (h : a.Extends phases trials b) (place : Nat) : (a.at place).Extends phases trials (b.at place) := by
  refine ⟨?_, h.rejections⟩
  rw [CycleRun.at, h.cycle]
  rfl

theorem CycleRun.working_select {run : CycleRun} {done rest : List Hypothesis} {h : Hypothesis}
    (hgoing : run.StandsAt .going run.ledger.hypotheses) (hl : run.ledger.Pending done (h :: rest)) :
    (run.select { h with status := .selected }
        { run.ledger with hypotheses := done ++ { h with status := .selected } :: rest }).Working
      done rest h (Trial.ofHypothesis h) := by
  have hfresh := hl.fresh h List.mem_cons_self
  have hsettled : h.settled (Trial.ofHypothesis h) .stopped = { h with status := .selected } := by
    simp [Hypothesis.settled, Standing.status, Trial.ofHypothesis, Trial.hunks, hfresh.hunks,
      hfresh.rejection]
  refine ⟨⟨?_, hgoing.outcome, hgoing.mended, hgoing.isCancelled⟩, hl.id_ne, rfl, rfl⟩
  rw [hsettled]
  rfl

theorem CycleRun.StandsAt.isOver_iff {run : CycleRun} {standing : Standing}
    {hypotheses : List Hypothesis} (hs : run.StandsAt standing hypotheses) :
    (run.hasSucceeded || run.isCancelled) = true ↔ standing ≠ .going := by
  rw [CycleRun.hasSucceeded, hs.outcome, hs.isCancelled]
  cases standing <;> simp [Standing.outcome, Standing.isStopped]

theorem CycleRun.StandsAt.not_isCancelled {run : CycleRun} {hypotheses : List Hypothesis}
    (hs : run.StandsAt .going hypotheses) : ¬run.isCancelled = true := by
  rw [hs.isCancelled]
  exact Bool.false_ne_true

theorem CycleRun.extends_stop (run : CycleRun) : run.Extends [.cycleAborted] [] run.stop :=
  ⟨by rw [List.append_nil]; rfl, rfl⟩

theorem CycleRun.extends_self (run : CycleRun) : run.Extends [] [] run :=
  ⟨by rw [List.append_nil, List.append_nil], rfl⟩

theorem CycleRun.EndsByRounds.rejected {base selected mid run : CycleRun}
    {done rest : List Hypothesis} {h : Hypothesis} {trial : Trial} {phases : List Phase}
    {calls calls' : List Call} (hselect : (base.at done.length).Extends [.hypothesisSelected] [] selected)
    (hcourse : TrialCourse config context d h trial .going phases calls)
    (htried : selected.Tried done rest h trial .going phases mid)
    (hrest : mid.EndsByRounds config context d (done ++ [h.settled trial .going]) rest run calls') :
    base.EndsByRounds config context d done (h :: rest) run
      (.polled false :: calls ++ calls') := by
  obtain ⟨trials, standing, phases', after, hrounds, htrace, hstands⟩ := hrest
  rw [List.append_assoc] at hstands
  refine ⟨_, _, _, _, .rejected hcourse hrounds, ?_, hstands⟩
  rw [List.length_append, List.length_singleton] at htrace
  have hfirst := hselect.trans htried.trace
  rw [List.length_cons]
  -- The place of the last hypothesis is that of the later rounds, if there are any.
  cases hlength : trials.length with
  | zero =>
    rw [hlength] at htrace
    exact hfirst.trans htrace
  | succ n =>
    rw [hlength, past, Nat.add_assoc, Nat.add_comm 1] at htrace
    exact (hfirst.at (done.length + (n + 1))).trans htrace

/-- The rounds take the hypotheses still to come, and there are enough rounds for them: each one takes a
hypothesis, rejects it and goes on with the others, or is the last one. -/
theorem observes_tryAll (pending : List Hypothesis) :
    ∀ (done : List Hypothesis) (rounds : Nat) (run : CycleRun), pending.length ≤ rounds →
      run.ledger.Pending done pending → run.StandsAt .going run.ledger.hypotheses →
      Observes (tryAll config c.observed context d rounds run) (tryAll config c context d rounds run)
        (run.EndsByRounds config context d done pending) := by
  induction pending with
  | nil =>
    intro done rounds run _ hl hgoing
    unfold tryAll
    refine (observes_checkpoint c run).bind ?_
    rintro run' _ (⟨hrun, rfl⟩ | ⟨hrun, rfl⟩) <;> rw [hrun]
    · exact Observes.pure ⟨_, _, _, _, .stopped [], run.extends_stop,
        ⟨hl.hypotheses, rfl, hgoing.mended, rfl⟩⟩
    simp only [if_neg hgoing.not_isCancelled, hl.selectNext_nil]
    exact Observes.pure ⟨_, _, _, _, .exhausted, run.extends_self,
      ⟨hl.hypotheses, hgoing.outcome, hgoing.mended, hgoing.isCancelled⟩⟩
  | cons h rest ih =>
    intro done rounds run hrounds hl hgoing
    obtain ⟨rounds, rfl⟩ : ∃ n, rounds = n + 1 :=
      Nat.exists_eq_succ_of_ne_zero (Nat.ne_of_gt (Nat.lt_of_lt_of_le (Nat.succ_pos _) hrounds))
    unfold tryAll
    refine (observes_checkpoint c run).bind ?_
    rintro run' _ (⟨hrun, rfl⟩ | ⟨hrun, rfl⟩) <;> rw [hrun]
    · exact Observes.pure ⟨_, _, _, _, .stopped _, run.extends_stop,
        ⟨hl.hypotheses, rfl, hgoing.mended, rfl⟩⟩
    simp only [if_neg hgoing.not_isCancelled, hl.selectNext_cons]
    have hselect := CycleRun.extends_select hl
    refine (observes_tryHypothesis config c context d (CycleRun.working_select hgoing hl)).bind ?_
    rintro run' calls ⟨trial, standing, phases, hcourse, htried⟩
    by_cases hover : standing = .going
    · have hcontinue : ¬(run'.hasSucceeded || run'.isCancelled) = true := by
        rw [htried.stands.isOver_iff, not_not]
        exact hover
      rw [if_neg hcontinue, if_neg hcontinue]
      subst hover
      have hl' := hl.reject (h.settled trial .going) rfl rfl htried.stands.hypotheses
      have hgoing' : run'.StandsAt .going run'.ledger.hypotheses :=
        ⟨rfl, htried.stands.outcome, htried.stands.mended, htried.stands.isCancelled⟩
      refine (ih _ _ run' (Nat.le_of_succ_le_succ hrounds) hl' hgoing').mono ?_
      intro run'' calls' hrest
      have hends := CycleRun.EndsByRounds.rejected _ _ _ hselect hcourse htried hrest
      exact hends
    · have hend : (run'.hasSucceeded || run'.isCancelled) = true :=
        htried.stands.isOver_iff.mpr hover
      rw [if_pos hend, if_pos hend]
      refine Observes.pure ⟨[trial], _, _, _, ?_, hselect.trans htried.trace, htried.stands⟩
      rw [List.append_nil]
      exact .ended hcourse hover

/-! ### Cycles -/

/-- A cycle that has its target, but no hypothesis yet. -/
structure CycleRun.Opened (index : Nat) (startedAt : Timestamp) (context : Context)
    (run : CycleRun) : Prop where
  cycle : run.cycle = { Cycle.opened index startedAt context with phases := [.diagnosing] }
  ledger : run.ledger = .empty
  mended : run.mended = none
  rejections : run.rejections = []
  isCancelled : run.isCancelled = false

namespace CycleRun

variable {run : CycleRun} {index : Nat} {startedAt : Timestamp} {context : Context}

theorem Opened.abort (ho : run.Opened index startedAt context) (reason : String) :
    (run.abort reason).finished
      = ⟨(Cycle.opened index startedAt context).abortedAtOnce reason, none, [], false⟩ := by
  simp only [finished, CycleRun.abort, enter, tell, ho.cycle, ho.mended, ho.rejections, ho.isCancelled]
  rfl

theorem Opened.stop (ho : run.Opened index startedAt context) :
    run.stop.finished = ⟨(Cycle.opened index startedAt context).abortedAtOnce
      CallError.cancelled.message, none, [], true⟩ := by
  simp only [finished, CycleRun.stop, CycleRun.abort, enter, tell, ho.cycle, ho.mended, ho.rejections]
  rfl

theorem close_of_going {hypotheses : List Hypothesis} (hs : run.StandsAt .going hypotheses)
    (hexhausted : run.ledger.isExhausted = true) :
    run.close.finished =
      ⟨{ run.cycle with
          phases := run.cycle.phases ++ [.hypothesisExhausted]
          hypotheses, outcome := .exhausted },
        none, (Ledger.mk hypotheses run.ledger.nextId).rejections, false⟩ := by
  have hgoing : ¬(run.isCancelled || run.hasSucceeded) = true := by
    rw [Bool.or_comm, hs.isOver_iff, not_not]
  unfold close
  simp only [if_neg hgoing, hexhausted, if_true]
  simp only [finished, enter, tell, hs.mended, hs.isCancelled, ← hs.hypotheses]
  rfl

theorem close_of_over {standing : Standing} {hypotheses : List Hypothesis}
    (hs : run.StandsAt standing hypotheses) (hover : standing ≠ .going) :
    run.close.finished = ⟨{ run.cycle with hypotheses }, standing.mended?, run.rejections,
      standing.isStopped⟩ := by
  have hended : (run.isCancelled || run.hasSucceeded) = true := by
    rw [Bool.or_comm, hs.isOver_iff]
    exact hover
  unfold close
  simp only [if_pos hended]
  simp only [finished, hs.mended, hs.isCancelled, hs.hypotheses]

end CycleRun

theorem Rounds.isExhausted {pending after : List Hypothesis} {trials : List Trial}
    {phases : List Phase} {calls : List Call}
    (hr : Rounds config context d pending trials .going phases calls after) (hne : pending ≠ [])
    {l : Ledger} (hl : l.hypotheses = after) : l.isExhausted = true := by
  rw [Ledger.isExhausted_iff, hl]
  exact ⟨hr.ne_nil hne, hr.rejected_of_going rfl⟩

variable {context} {index : Nat} {startedAt : Timestamp}

theorem CycleRun.Opened.close {base run : CycleRun} (ho : base.Opened index startedAt context)
    (evidence : List String) {proposals : List String} {ledger : Ledger} {added : Added}
    (hlisted : Ledger.empty.add (config.limit proposals) = .ok (ledger, added))
    (hne : ledger.hypotheses ≠ []) {calls : List Call}
    (hends : CycleRun.EndsByRounds config context d { base with ledger } [] ledger.hypotheses run
      calls) :
    CycleCourse config index startedAt d evidence run.close.finished
      (.diagnosed d evidence (.ok (some context)) :: .polled false
        :: .proposed context (.ok proposals) :: calls) := by
  obtain ⟨trials, standing, phases, after, hrounds, htrace, hstands⟩ := hends
  have hcycle := htrace.cycle
  rw [List.length_nil, cycle_past (by rw [ho.cycle]; rfl)] at hcycle
  simp only [ho.cycle] at hcycle
  by_cases hover : standing = .going
  · subst hover
    rw [close_of_going hstands (hrounds.isExhausted _ _ _ hne hstands.hypotheses), hcycle]
    exact .exhausted context proposals ledger added hlisted hne _ hrounds
  · rw [close_of_over hstands hover, hcycle, htrace.rejections, rejections_past]
    simp only [ho.rejections, hstands.outcome]
    exact .ended context proposals ledger added hlisted hne _ hrounds hover

theorem observes_tryProposals (evidence proposals : List String) {run : CycleRun}
    (ho : run.Opened index startedAt context) :
    Observes (tryProposals config c.observed context d proposals run)
      (tryProposals config c context d proposals run) fun run' calls =>
        CycleCourse config index startedAt d evidence run'.finished
          (.diagnosed d evidence (.ok (some context)) :: .polled false
            :: .proposed context (.ok proposals) :: calls) := by
  unfold tryProposals
  rw [ho.ledger]
  cases hlisted : Ledger.empty.add (config.limit proposals) with
  | error e =>
    refine Observes.pure ?_
    rw [ho.abort]
    exact .unlisted context proposals e hlisted
  | ok listed =>
    obtain ⟨ledger, added⟩ := listed
    have hids : added.ids = ledger.hypotheses.map Hypothesis.id :=
      (Ledger.registered_of_add hlisted).added
    simp only [hids]
    by_cases hempty : ledger.hypotheses = []
    · simp only [hempty]
      refine Observes.pure ?_
      rw [ho.abort]
      exact .unusable context proposals ledger added hlisted hempty
    · have husable : ¬(ledger.hypotheses.map Hypothesis.id).isEmpty = true := by simpa using hempty
      simp only [if_neg husable]
      have hgoing : CycleRun.StandsAt { run with ledger } .going ledger.hypotheses :=
        ⟨rfl, by rw [ho.cycle]; rfl, ho.mended, ho.isCancelled⟩
      refine (observes_tryAll config c context d _ _ _ _ (Nat.le_refl _) (Ledger.pending_of_add hlisted)
        hgoing).bind ?_
      intro run' calls hends
      refine Observes.pure ?_
      rw [List.append_nil]
      exact ho.close config d evidence hlisted hempty hends

theorem observes_runCycle (index : Nat) (evidence : List String) :
    Observes (runCycle config c.observed index d evidence) (runCycle config c index d evidence)
      fun run calls =>
        ∃ startedAt, CycleCourse config index startedAt d evidence run.finished calls := by
  unfold runCycle
  refine Observes.get fun w calls => ?_
  simp only [Collaborators.observed_now]
  generalize c.now w = startedAt
  refine Observes.call fun answer => ?_
  cases answer with
  | error e => exact Observes.pure ⟨startedAt, .undiagnosed e⟩
  | ok found =>
    cases found with
    | none => exact Observes.pure ⟨startedAt, .clean⟩
    | some context =>
      simp only
      refine (observes_checkpoint c _).bind ?_
      rintro run' _ (⟨rfl, rfl⟩ | ⟨rfl, rfl⟩)
      · refine Observes.pure ⟨startedAt, ?_⟩
        rw [CycleRun.Opened.stop ⟨rfl, rfl, rfl, rfl, rfl⟩]
        exact .stopped context
      refine Observes.call fun answer => ?_
      cases answer with
      | error e =>
        refine Observes.pure ⟨startedAt, ?_⟩
        rw [CycleRun.Opened.abort ⟨rfl, rfl, rfl, rfl, rfl⟩]
        exact .unadvised context e
      | ok proposals =>
        refine (observes_tryProposals config c d evidence proposals
          ⟨rfl, rfl, rfl, rfl, rfl⟩).mono ?_
        exact fun run' calls hcourse => ⟨startedAt, hcourse⟩

/-! ### Sessions -/

variable (r : Recorder W) (id : String)

/-- What a finished cycle means for the session, case by case. -/
theorem CycleRun.ending_cases (run : CycleRun) (isLast : Bool) :
    (run.isCancelled = true ∧ run.ending isLast = (some .sessionCancelled, .cancelled)) ∨
    (run.isCancelled = false ∧ run.cycle.outcome = .succeeded ∧
      run.ending isLast = (some .sessionSucceeded, .succeeded)) ∨
    (run.isCancelled = false ∧ run.cycle.outcome ≠ .succeeded ∧ isLast = true ∧
      run.ending isLast = (some .sessionFailed, .exhausted)) ∨
    run.isCancelled = false ∧ run.cycle.outcome ≠ .succeeded ∧ isLast = false ∧
      run.ending isLast = (none, .exhausted) := by
  unfold CycleRun.ending CycleRun.hasSucceeded
  cases run.isCancelled <;> by_cases hsuccess : run.cycle.outcome = .succeeded <;> cases isLast <;>
    simp [hsuccess]

theorem observes_recordOrTell (write : StateM W (Except RecordError Unit))
    (entry : Except RecordError Unit → Call) :
    Observes (recordOrTell (noted write entry)) (recordOrTell write)
      fun _ calls => ∃ answer, calls = [entry answer] := by
  unfold recordOrTell
  refine Observes.call fun answer => ?_
  cases answer <;> exact Observes.pure ⟨_, rfl⟩

theorem observes_runCycles (remaining : Nat) :
    ∀ session : SessionRun, session.document = d → session.outcome = .exhausted →
      Observes (runCycles config c.observed r.observed id remaining session)
        (runCycles config c r id remaining session) fun session' calls =>
          ∃ history, session'.history = session.history ++ history ∧
            SessionCourse config id d remaining session.history.length session.evidence history
              session'.outcome session'.document calls := by
  induction remaining with
  | zero =>
    intro session hdocument houtcome
    refine Observes.pure ⟨[], (List.append_nil _).symm, ?_⟩
    rw [hdocument, houtcome]
    exact .bound _ _
  | succ remaining ih =>
    intro session hdocument houtcome
    unfold runCycles
    refine Observes.call fun stop => ?_
    cases stop with
    | true =>
      refine Observes.pure ⟨[], (List.append_nil _).symm, ?_⟩
      rw [hdocument]
      exact .stopped _ _ _
    | false =>
      simp only [Bool.false_eq_true, if_false]
      rw [hdocument]
      refine (observes_runCycle config c d _ _).bind ?_
      rintro run calls ⟨startedAt, hcourse⟩
      rcases run.ending_cases (remaining == 0) with
        ⟨hstop, hending⟩ | ⟨hgo, hsuccess, hending⟩ | ⟨hgo, hfailure, hlast, hending⟩ |
          ⟨hgo, hfailure, hlast, hending⟩
      all_goals
        simp only [hending]
        refine (observes_recordOrTell _ _).bind ?_
        rintro failures _ ⟨answer, rfl⟩
      · exact Observes.pure ⟨_, rfl, .cancelled hcourse hstop answer⟩
      · exact Observes.pure ⟨_, rfl, .succeeded hcourse hgo hsuccess answer⟩
      · obtain rfl : remaining = 0 := by simpa using hlast
        exact Observes.pure ⟨_, rfl, .failed hcourse hgo hfailure answer⟩
      · obtain ⟨more, rfl⟩ : ∃ n, remaining = n + 1 :=
          Nat.exists_eq_succ_of_ne_zero (by simpa using hlast)
        refine (ih _ rfl rfl).mono ?_
        rintro session' calls' ⟨history, hhistory, hrest⟩
        refine ⟨run.cycle :: history, ?_, ?_⟩
        · rw [hhistory, List.append_assoc, List.singleton_append]
        · simp only [List.length_append, List.length_singleton] at hrest
          exact .next hcourse hgo hfailure answer hrest

end Programs

/-! ### The late end of a session that is stopped between two cycles -/

/-- The history of a session whose cycles have the given records. -/
def SessionOutcome.historyOf (outcome : SessionOutcome) (history : List Cycle) : List Cycle :=
  if outcome = .cancelled then markCancelled history else history

/-- A last cycle that ends as cancelled. -/
def Cycle.markedCancelled (cycle : Cycle) : Cycle :=
  if cycle.phases.getLast? = some .sessionCancelled then cycle else cycle.closed .sessionCancelled

theorem markCancelled_append_singleton (before : List Cycle) (last : Cycle) :
    markCancelled (before ++ [last]) = before ++ [last.markedCancelled] := by
  induction before with
  | nil =>
    rw [List.nil_append, List.nil_append, markCancelled, Cycle.markedCancelled]
    split <;> rfl
  | cons cycle before ih =>
    have hne : before ++ [last] ≠ [] := by simp
    obtain ⟨first, rest, hrest⟩ := List.exists_cons_of_ne_nil hne
    rw [List.cons_append, List.cons_append, ← ih, hrest, markCancelled]
    exact nofun

theorem map_markCancelled {α : Type} (f : Cycle → α)
    (hf : ∀ cycle phases, f { cycle with phases } = f cycle) (history : List Cycle) :
    (markCancelled history).map f = history.map f := by
  fun_induction markCancelled history with
  | case1 => rfl
  | case2 => rfl
  | case3 cycle => rw [List.map_singleton, List.map_singleton, hf]
  | case4 cycle rest _ ih => rw [List.map_cons, List.map_cons, ih]

theorem SessionOutcome.map_historyOf {α : Type} (outcome : SessionOutcome) (f : Cycle → α)
    (hf : ∀ cycle phases, f { cycle with phases } = f cycle) (history : List Cycle) :
    (outcome.historyOf history).map f = history.map f := by
  rw [historyOf]
  split
  · exact map_markCancelled f hf history
  · rfl

theorem SessionOutcome.length_historyOf (outcome : SessionOutcome) (history : List Cycle) :
    (outcome.historyOf history).length = history.length := by
  have hsame := outcome.map_historyOf Cycle.index (fun _ _ => rfl) history
  simpa using congrArg List.length hsame

theorem SessionOutcome.forall₂_historyOf {α : Type} {P : Cycle → α → Prop}
    (hclosed : ∀ {cycle a}, P cycle a → P (cycle.closed .sessionCancelled) a)
    (outcome : SessionOutcome) {history : List Cycle} {as : List α}
    (h : List.Forall₂ P history as) : List.Forall₂ P (outcome.historyOf history) as := by
  unfold SessionOutcome.historyOf
  split_ifs
  · induction h with
    | nil => exact .nil
    | @cons cycle a history as hfirst hrest ih =>
      cases hrest with
      | nil =>
        have hlast : markCancelled [cycle] = [cycle.markedCancelled] :=
          markCancelled_append_singleton [] cycle
        rw [hlast, Cycle.markedCancelled]
        split_ifs
        · exact .cons hfirst .nil
        · exact .cons (hclosed hfirst) .nil
      | cons => exact .cons hfirst ih
  · exact h

/-! ### Whole sessions -/

/-- A session with this result and these calls took some course. -/
def SessionResult.IsOfCourse (config : SessionConfig) (id : String) (d : Document)
    (result : SessionResult) (calls : List Call) : Prop :=
  ∃ history before answer,
    SessionCourse config id d config.maxCycles 0 [] history result.outcome result.document before ∧
    result.history = result.outcome.historyOf history ∧
    calls = before ++ [.recordedResult result answer]

section Programs

variable {W : Type} (config : SessionConfig) (c : Collaborators W) (r : Recorder W) (id : String)
  (d : Document)

theorem observes_runWith :
    Observes (runWith config c.observed r.observed id d) (runWith config c r id d)
      fun finished calls => finished.1.IsOfCourse config id d calls := by
  unfold runWith
  refine Observes.get fun w calls => ?_
  simp only [Collaborators.observed_now]
  refine (observes_runCycles config c d r id _ _ rfl rfl).bind ?_
  rintro session calls ⟨history, hhistory, hcourse⟩
  refine Observes.get fun w calls' => ?_
  simp only [Collaborators.observed_now]
  refine (observes_recordOrTell _ _).bind ?_
  rintro failures _ ⟨answer, rfl⟩
  refine Observes.pure ⟨history, calls, answer, hcourse, ?_, rfl⟩
  rw [hhistory]
  rfl

/-- Noting the calls changes neither the result and the events of a session nor the world after it. -/
theorem runWith_observed (w : W) :
    runWith config c.observed r.observed id d (w, [])
      = ((runWith config c r id d w).1, (runWith config c r id d w).2,
          sessionCalls config c r id d w) := by
  obtain ⟨calls, hrun, -⟩ := observes_runWith config c r id d w []
  rw [sessionCalls, hrun]

/-- The result of a session. -/
def sessionResult (w : W) : SessionResult :=
  (runWith config c r id d w).1.1

/-- Every session takes its course. -/
theorem sessionCourse (w : W) :
    (sessionResult config c r id d w).IsOfCourse config id d (sessionCalls config c r id d w) := by
  obtain ⟨calls, hrun, hcourse⟩ := observes_runWith config c r id d w []
  rw [sessionCalls, hrun]
  exact hcourse

end Programs

end TextRepair
