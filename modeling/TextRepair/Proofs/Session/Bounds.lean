import TextRepair.Proofs.Session.Agreement
import TextRepair.Proofs.Session.Safety
import TextRepair.Proofs.Session.Termination

/-!
# What a session asks for

Main statement, `session_bounded`: a session makes no more diagnoses than it may have cycles, each cycle
asks once for hypotheses and goes through a plan, an edit and a check at most once for each usable
explanation (`Cycle.Asks`), and the outcome says exactly how the session has ended.
-/

namespace TextRepair

/-- Whether the call is a diagnosis. -/
def Call.isDiagnosis : Call → Bool
  | diagnosed .. => true
  | _ => false

/-- The calls among these that ask those who diagnose, advise and check. -/
def requests (calls : List Call) : List Call :=
  calls.filter Call.isRequest

/-- The requests of one trial: a plan for the explanation, an edit for the plan and the check of a
candidate, each of them only after an answer to the one before it. -/
inductive IsAttempt (config : SessionConfig) (context : Context) (explanation : String) :
    List Call → Prop
  | nothing : IsAttempt config context explanation []
  | planned (answer : Answer String) :
    IsAttempt config context explanation [.planned explanation context answer]
  | edited (plan : String) (answer : Answer Edit) :
    IsAttempt config context explanation
      [.planned explanation context (.ok plan), .edited plan context answer]
  | verified (plan : String) (edit : Edit) (candidate : Document) (answer : Answer CheckReport) :
    IsAttempt config context explanation
      [.planned explanation context (.ok plan), .edited plan context (.ok edit),
        .verified candidate config.command answer]

/-- The requests of a cycle: one diagnosis, at most one request for hypotheses, and then those of the
trials. The explanations that are tried are usable ones, in their order and each of them once. -/
inductive Cycle.Asks (config : SessionConfig) (cycle : Cycle) : List Call → Prop
  | diagnosis (d : Document) (evidence : List String) (answer : Answer (Option Context))
      (untried : cycle.trials = []) : Asks config cycle [.diagnosed d evidence answer]
  | proposal (d : Document) (evidence : List String) (context : Context) (e : CallError)
      (untried : cycle.trials = []) :
    Asks config cycle [.diagnosed d evidence (.ok (some context)), .proposed context (.error e)]
  | trials (d : Document) (evidence : List String) (context : Context) (proposals : List String)
      (attempts : List (List Call))
      (tried : cycle.trials.map Trial.explanation <+: Ledger.usable (config.limit proposals))
      (distinct : (cycle.trials.map Trial.explanation).Nodup)
      (each : List.Forall₂ (fun trial calls => IsAttempt config context trial.explanation calls)
        cycle.trials attempts) :
    Asks config cycle (.diagnosed d evidence (.ok (some context))
      :: .proposed context (.ok proposals) :: attempts.flatten)

section Courses

variable {config : SessionConfig} {context : Context} {d candidate : Document} {edit : Edit}
  {plan : String} {h : Hypothesis} {trial trial' : Trial} {standing : Standing} {phases : List Phase}
  {calls : List Call}

/-! ### The requests of a trial -/

theorem CheckCourse.requests_eq
    (hc : CheckCourse config context candidate trial trial' standing phases calls) :
    requests calls = [] ∨ ∃ answer, requests calls = [.verified candidate config.command answer] := by
  cases hc with
  | stopped => exact Or.inl rfl
  | failed => exact Or.inr ⟨_, rfl⟩
  | fixed => exact Or.inr ⟨_, rfl⟩
  | turnedDown => exact Or.inr ⟨_, rfl⟩

theorem EditCourse.requests_eq
    (hc : EditCourse config context d edit trial trial' standing phases calls) :
    requests calls = [] ∨
      ∃ candidate answer, requests calls = [.verified candidate config.command answer] := by
  cases hc with
  | malformed => exact Or.inl rfl
  | unplaced => exact Or.inl rfl
  | applied out _ _ hcheck => exact hcheck.requests_eq.imp_right fun hcalls => ⟨out.document, hcalls⟩

theorem PlanCourse.isAttempt (explanation : String)
    (hc : PlanCourse config context d plan trial trial' standing phases calls) :
    IsAttempt config context explanation (.planned explanation context (.ok plan) :: requests calls) := by
  cases hc with
  | stopped => exact .planned _
  | failed => exact .edited _ _
  | @edited edit _ _ _ calls hedit =>
    show IsAttempt _ _ _ (_ :: .edited plan context (.ok edit) :: requests calls)
    rcases hedit.requests_eq with hcalls | ⟨candidate, answer, hcalls⟩ <;> rw [hcalls]
    · exact .edited _ _
    · exact .verified _ _ _ _

theorem TrialCourse.isAttempt (hc : TrialCourse config context d h trial standing phases calls) :
    IsAttempt config context trial.explanation (requests calls) := by
  rw [hc.isClosed.explanation_eq]
  cases hc with
  | stopped => exact .nothing
  | failed => exact .planned _
  | planned _ hplan => exact hplan.isAttempt h.explanation

/-! ### The requests of a cycle -/

theorem Rounds.attempts {pending after : List Hypothesis} {trials : List Trial}
    (hr : Rounds config context d pending trials standing phases calls after) :
    trials.map Trial.explanation <+: pending.map Hypothesis.explanation ∧
      ∃ attempts : List (List Call), requests calls = attempts.flatten ∧
        List.Forall₂ (fun trial calls => IsAttempt config context trial.explanation calls) trials
          attempts := by
  induction hr with
  | exhausted => exact ⟨List.nil_prefix, [], rfl, .nil⟩
  | stopped => exact ⟨List.nil_prefix, [], rfl, .nil⟩
  | @rejected h _ _ trial _ _ _ _ calls calls' hfirst _ ih =>
    obtain ⟨htried, attempts, hcalls, heach⟩ := ih
    refine ⟨?_, requests calls :: attempts, ?_, .cons hfirst.isAttempt heach⟩
    · rw [List.map_cons, List.map_cons, hfirst.isClosed.explanation_eq]
      exact List.cons_prefix_cons.mpr ⟨rfl, htried⟩
    · rw [List.flatten_cons, ← hcalls]
      exact List.filter_append _ _
  | @ended h _ trial _ _ calls hlast _ =>
    refine ⟨?_, [requests calls], (List.append_nil _).symm, .cons hlast.isAttempt .nil⟩
    rw [List.map_cons, List.map_nil, List.map_cons, hlast.isClosed.explanation_eq]
    exact List.cons_prefix_cons.mpr ⟨rfl, List.nil_prefix⟩

theorem Cycle.Asks.of_rounds {cycle : Cycle} {proposals : List String} {ledger : Ledger}
    {added : Added} {after : List Hypothesis} (evidence : List String)
    (hlisted : Ledger.empty.add (config.limit proposals) = .ok (ledger, added))
    (hr : Rounds config context d ledger.hypotheses cycle.trials standing phases calls after) :
    cycle.Asks config (.diagnosed d evidence (.ok (some context))
      :: .proposed context (.ok proposals) :: requests calls) := by
  obtain ⟨htried, attempts, hcalls, heach⟩ := hr.attempts
  rw [(Ledger.registered_of_add hlisted).explanations] at htried
  rw [hcalls]
  exact .trials d evidence context proposals attempts htried
    ((Ledger.nodup_usable _).sublist htried.sublist) heach

variable {index used remaining : Nat} {startedAt : Timestamp} {evidence : List String} {id : String}
  {finished : Finished} {history : List Cycle} {outcome : SessionOutcome} {document : Document}

theorem CycleCourse.asks (hc : CycleCourse config index startedAt d evidence finished calls) :
    finished.cycle.Asks config (requests (.polled false :: calls)) := by
  cases hc with
  | undiagnosed => exact .diagnosis _ _ _ rfl
  | clean => exact .diagnosis _ _ _ rfl
  | stopped => exact .diagnosis _ _ _ rfl
  | unadvised => exact .proposal _ _ _ _ rfl
  | unlisted => exact .trials _ _ _ _ [] List.nil_prefix .nil .nil
  | unusable => exact .trials _ _ _ _ [] List.nil_prefix .nil .nil
  | exhausted _ _ _ _ hlisted _ _ hrounds => exact .of_rounds evidence hlisted hrounds
  | ended _ _ _ _ hlisted _ _ hrounds => exact .of_rounds evidence hlisted hrounds

theorem Cycle.Asks.closed {cycle : Cycle} (ha : cycle.Asks config calls) (phase : Phase) :
    (cycle.closed phase).Asks config calls := by
  cases ha with
  | diagnosis _ _ _ huntried => exact .diagnosis _ _ _ huntried
  | proposal _ _ _ _ huntried => exact .proposal _ _ _ _ huntried
  | trials _ _ _ _ attempts htried hdistinct heach =>
    exact .trials _ _ _ _ attempts htried hdistinct heach

/-! ### Sessions -/

theorem CycleCourse.index_eq (hc : CycleCourse config index startedAt d evidence finished calls) :
    finished.cycle.index = index := by
  cases hc <;> rfl

theorem CycleCourse.countP_isDiagnosis
    (hc : CycleCourse config index startedAt d evidence finished calls) :
    (.polled false :: calls).countP Call.isDiagnosis = 1 := by
  obtain ⟨answer, during, rfl, hinner⟩ := hc.calls_eq
  have hduring : during.countP Call.isDiagnosis = 0 := by
    rw [List.countP_eq_zero]
    intro call hcall
    have := hinner call hcall
    cases call <;> simp_all [Call.isInner, Call.isDiagnosis]
  simp [List.countP_cons, hduring, Call.isDiagnosis]

theorem CycleCourse.polled_iff
    (hc : CycleCourse config index startedAt d evidence finished calls) :
    .polled true ∈ calls ↔ finished.isCancelled = true := by
  cases hc with
  | exhausted _ _ _ _ _ _ _ hrounds => simpa using hrounds.polled_iff
  | @ended _ _ _ _ _ _ _ standing _ _ _ _ hrounds =>
    have hpolled := hrounds.polled_iff
    cases standing <;> simpa [Standing.isStopped] using hpolled
  | _ => simp

theorem SessionCourse.length_le
    (hs : SessionCourse config id d remaining used evidence history outcome document calls) :
    history.length ≤ remaining := by
  induction hs with
  | bound => exact Nat.le_refl 0
  | stopped => exact Nat.zero_le _
  | cancelled => exact Nat.le_add_left 1 _
  | succeeded => exact Nat.le_add_left 1 _
  | failed => exact Nat.le_refl 1
  | next _ _ _ _ _ ih => exact Nat.succ_le_succ ih

theorem SessionCourse.countP_isDiagnosis
    (hs : SessionCourse config id d remaining used evidence history outcome document calls) :
    calls.countP Call.isDiagnosis = history.length := by
  induction hs with
  | bound => rfl
  | stopped => rfl
  | cancelled hcourse => rw [List.countP_append, hcourse.countP_isDiagnosis]; rfl
  | succeeded hcourse => rw [List.countP_append, hcourse.countP_isDiagnosis]; rfl
  | failed hcourse => rw [List.countP_append, hcourse.countP_isDiagnosis]; rfl
  | next hcourse _ _ _ _ ih =>
    rw [List.countP_append, hcourse.countP_isDiagnosis, List.countP_cons_of_neg Bool.false_ne_true, ih,
      List.length_cons, Nat.add_comm]

theorem SessionCourse.index_eq
    (hs : SessionCourse config id d remaining used evidence history outcome document calls) :
    history.map Cycle.index = List.range' (used + 1) history.length := by
  induction hs with
  | bound => rfl
  | stopped => rfl
  | cancelled hcourse => exact congrArg (fun n => [n]) hcourse.index_eq
  | succeeded hcourse => exact congrArg (fun n => [n]) hcourse.index_eq
  | failed hcourse => exact congrArg (fun n => [n]) hcourse.index_eq
  | next hcourse _ _ _ _ ih =>
    rw [List.map_cons, hcourse.index_eq, ih, List.length_cons, List.range'_succ]

theorem SessionCourse.cancelled_iff
    (hs : SessionCourse config id d remaining used evidence history outcome document calls) :
    outcome = .cancelled ↔ .polled true ∈ calls := by
  induction hs with
  | bound => simp
  | stopped => simp
  | cancelled hcourse hstop => simp [hcourse.polled_iff, hstop]
  | succeeded hcourse hgo => simp [hcourse.polled_iff, hgo]
  | failed hcourse hgo => simp [hcourse.polled_iff, hgo]
  | next hcourse hgo _ _ _ ih => simp [hcourse.polled_iff, hgo, ih]

theorem SessionCourse.length_eq
    (hs : SessionCourse config id d remaining used evidence history outcome document calls)
    (hexhausted : outcome = .exhausted) : history.length = remaining := by
  induction hs with
  | bound => rfl
  | stopped => cases hexhausted
  | cancelled => cases hexhausted
  | succeeded => cases hexhausted
  | failed => rfl
  | next _ _ _ _ _ ih => exact congrArg Nat.succ (ih hexhausted)

theorem SessionCourse.outcome_ne_succeeded
    (hs : SessionCourse config id d remaining used evidence history outcome document calls)
    (hfailure : outcome ≠ .succeeded) : ∀ o ∈ history.map Cycle.outcome, o ≠ .succeeded := by
  obtain ⟨hbefore, hlast⟩ := hs.outcomes
  rcases List.eq_nil_or_concat (history.map Cycle.outcome) with hnil | ⟨before, last, hhistory⟩
  · rw [hnil]
    exact List.forall_mem_nil _
  · rw [List.concat_eq_append] at hhistory
    rw [hhistory, List.dropLast_concat] at hbefore
    rw [hhistory, List.getLast?_concat] at hlast
    rw [hhistory]
    refine List.forall_mem_append.mpr ⟨hbefore, List.forall_mem_singleton.mpr fun hsuccess => ?_⟩
    exact hfailure (hlast.mpr (congrArg some hsuccess))

theorem SessionCourse.requests_getLast?
    (hs : SessionCourse config id d remaining used evidence history outcome document calls)
    {last : List Call} (hlast : ∀ call ∈ last, call.isCycleRecord = false)
    (hrequests : requests last = []) :
    ((callsByCycle (calls ++ last)).map requests).getLast? = some [] := by
  have hsingle {index : Nat} {startedAt : Timestamp} {evidence : List String} {finished : Finished}
      {calls : List Call} (hc : CycleCourse config index startedAt d evidence finished calls)
      (cycle : Cycle) (answer : Except RecordError Unit) :
      ((callsByCycle (.polled false :: calls ++ [.recordedCycle id cycle answer] ++ last)).map
        requests).getLast? = some [] := by
    rw [hc.callsByCycle_eq, List.nil_append, callsByCycle_of_no_record hlast, List.map_cons,
      List.map_singleton, hrequests]
    rfl
  induction hs with
  | bound =>
    rw [List.nil_append, callsByCycle_of_no_record hlast, List.map_singleton, hrequests]
    rfl
  | stopped =>
    rw [callsByCycle_of_no_record, List.map_singleton]
    · exact congrArg (fun calls => some calls) hrequests
    · exact List.forall_mem_cons.mpr ⟨rfl, hlast⟩
  | cancelled hcourse _ answer => exact hsingle hcourse _ answer
  | succeeded hcourse _ _ answer => exact hsingle hcourse _ answer
  | failed hcourse _ _ answer => exact hsingle hcourse _ answer
  | next hcourse _ _ _ _ ih =>
    rw [hcourse.callsByCycle_eq, List.map_cons, List.getLast?_cons, ih]
    rfl

end Courses

/-- The calls of a session with this result, and what its outcome means. -/
structure SessionResult.IsBounded (config : SessionConfig) (result : SessionResult)
    (calls : List Call) : Prop where
  used : result.cyclesUsed = result.history.length
  bound : result.cyclesUsed ≤ config.maxCycles
  diagnoses : calls.countP Call.isDiagnosis = result.cyclesUsed
  indexes : result.history.map Cycle.index = List.range' 1 result.cyclesUsed
  asks : List.Forall₂ (fun cycle calls => cycle.Asks config (requests calls)) result.history
    (callsByCycle calls).dropLast
  /-- Nobody is asked after the last cycle. -/
  last : ((callsByCycle calls).map requests).getLast? = some []
  succeeded_iff : result.outcome = .succeeded ↔
    ∃ cycle ∈ result.history.getLast?, cycle.outcome = .succeeded
  cancelled_iff : result.outcome = .cancelled ↔ .polled true ∈ calls
  exhausted_iff : result.outcome = .exhausted ↔
    (¬∃ cycle ∈ result.history.getLast?, cycle.outcome = .succeeded) ∧ .polled true ∉ calls
  exhausted : result.outcome = .exhausted → result.cyclesUsed = config.maxCycles ∧
    ∀ cycle ∈ result.history,
      cycle.outcome = .exhausted ∨ ∃ reason, cycle.outcome = .aborted reason

theorem CycleOutcome.of_ne_succeeded {outcome : CycleOutcome} (h : outcome ≠ .succeeded) :
    outcome = .exhausted ∨ ∃ reason, outcome = .aborted reason := by
  cases outcome with
  | succeeded => exact absurd rfl h
  | exhausted => exact Or.inl rfl
  | aborted reason => exact Or.inr ⟨reason, rfl⟩

theorem SessionResult.IsOfCourse.isBounded {config : SessionConfig} {id : String} {d : Document}
    {result : SessionResult} {calls : List Call} (hc : result.IsOfCourse config id d calls)
    (hused : result.cyclesUsed = result.history.length) : result.IsBounded config calls := by
  obtain ⟨history, before, answer, hcourse, hhistory, rfl⟩ := hc
  have hlast : ∀ call ∈ [Call.recordedResult result answer], call.isCycleRecord = false :=
    List.forall_mem_singleton.mpr rfl
  have hsame {α : Type} (f : Cycle → α) (hf : ∀ cycle phases, f { cycle with phases } = f cycle) :
      result.history.map f = history.map f := by
    rw [hhistory]
    exact result.outcome.map_historyOf f hf history
  have houtcomes := hsame Cycle.outcome fun _ _ => rfl
  have hlength : result.cyclesUsed = history.length := by
    rw [hused, hhistory, SessionOutcome.length_historyOf]
  have hsucceeded : result.outcome = .succeeded ↔
      ∃ cycle ∈ result.history.getLast?, cycle.outcome = .succeeded := by
    rw [hcourse.outcomes.2, ← houtcomes, List.getLast?_map]
    simp [Option.map_eq_some_iff]
  have hcancelled : result.outcome = .cancelled ↔
      .polled true ∈ before ++ [.recordedResult result answer] := by
    simp [hcourse.cancelled_iff]
  refine ⟨hused, ?_, ?_, ?_, ?_, ?_, hsucceeded, hcancelled, ?_, ?_⟩
  · rw [hlength]
    exact hcourse.length_le
  · rw [List.countP_append, hcourse.countP_isDiagnosis, hlength]
    rfl
  · rw [hsame Cycle.index fun _ _ => rfl, hcourse.index_eq, hlength]
  · rw [hhistory]
    refine SessionOutcome.forall₂_historyOf (fun ha => ha.closed _) _ ?_
    exact hcourse.forall₂_byCycle (fun hcycle => hcycle.asks) (fun _ ha => ha.closed _) hlast
  · exact hcourse.requests_getLast? hlast rfl
  · rw [← hsucceeded, ← hcancelled]
    cases result.outcome <;> simp
  · intro hexhausted
    refine ⟨hlength.trans (hcourse.length_eq hexhausted), fun cycle hcycle => ?_⟩
    have hfailure := hcourse.outcome_ne_succeeded (by simp [hexhausted])
    rw [← houtcomes] at hfailure
    exact CycleOutcome.of_ne_succeeded (hfailure _ (List.mem_map_of_mem hcycle))

/-- Whatever the collaborators answer and whenever the session is asked to stop: the calls of the session
are bounded and its outcome is exact. The loop over the hypotheses of a cycle, which has no bound of its
own, ends on every cycle, and as it ends in a session. -/
theorem session_bounded {W : Type} (config : SessionConfig) (c : Collaborators W) (r : Recorder W)
    (id : String) (d : Document) (w : W) :
    (sessionResult config c r id d w).IsBounded config (sessionCalls config c r id d w) ∧
    ∀ context run v run' v', Loops config c context d run v run' v' ↔
      tryAll config c context d run.ledger.hypotheses.length run v = (run', v') :=
  ⟨(sessionCourse config c r id d w).isBounded rfl,
    fun _ run _ _ _ => loops_iff run.ledger.toTry_le_length⟩

end TextRepair
