import TextRepair.Proofs.Session.ByCycle
import TextRepair.Proofs.Session.Cycles

/-!
# No rejected document leaves a session

Main statement, `session_safe`. A session that does not succeed gives back its input. One that succeeds
does so in its last cycle, and there (`IsMended`) either the diagnosis has found nothing, or the last
trial has an edit that was applied to the input, its outcome was handed to the check, and what the
check answered was judged as fixed against the target and the baseline of that very cycle. Candidates
are never carried over: every relation of a course speaks of the one document of the session.
-/

namespace TextRepair

/-- A trial whose edit gives `document` for the document `d`, with a check of it that was judged as
fixed. -/
structure IsFix (config : SessionConfig) (context : Context) (d : Document) (trial : Trial)
    (edit : Edit) (out : Outcome Float) (report : CheckReport) : Prop where
  made : trial.edit = some edit
  applied : config.apply.apply d edit.hunks = .ok out
  success : out.success = true
  signatures : trial.signaturesAfter = report.signatures
  judged : judge context.target context.baseline report.signatures = .fixed
  verdict : trial.verdict = some .fixed

/-- How a cycle with these calls came by the document that a session on `d` ends with. -/
inductive IsMended (config : SessionConfig) (d : Document) (cycle : Cycle) :
    Document → List Call → Prop
  | clean (evidence : List String) :
    IsMended config d cycle d [.diagnosed d evidence (.ok none)]
  | fixed (evidence : List String) (context : Context) (during : List Call)
      (inner : ∀ call ∈ during, call.isInner = true)
      (target : cycle.target = some context.target)
      (baseline : cycle.baselineSize = context.baseline.length) (trial : Trial)
      (last : cycle.trials.getLast? = some trial) (edit : Edit) (out : Outcome Float)
      (report : CheckReport) (fix : IsFix config context d trial edit out report) :
    IsMended config d cycle out.document (.diagnosed d evidence (.ok (some context)) :: during
      ++ [.verified out.document config.command (.ok report)])

section Courses

variable {config : SessionConfig} {context : Context} {d candidate : Document} {edit : Edit}
  {plan : String} {h : Hypothesis} {trial trial' : Trial} {standing : Standing} {phases : List Phase}
  {calls : List Call}

/-! ### The trial that mends a document -/

theorem CheckCourse.mended
    (hc : CheckCourse config context candidate trial trial' (.mended d) phases calls) :
    d = candidate ∧ ∃ report, judge context.target context.baseline report.signatures = .fixed ∧
      trial' = trial.checked .fixed report ∧
      calls = [.polled false, .verified candidate config.command (.ok report)] := by
  cases hc with
  | fixed report hjudged => exact ⟨rfl, report, hjudged, rfl, rfl⟩

theorem EditCourse.mended {document : Document} (hedit : trial.edit = some edit)
    (hc : EditCourse config context d edit trial trial' (.mended document) phases calls) :
    ∃ out report, document = out.document ∧ IsFix config context d trial' edit out report ∧
      calls = [.polled false, .verified out.document config.command (.ok report)] := by
  cases hc with
  | applied out hresult hsuccess hcheck =>
    obtain ⟨hdocument, report, hjudged, rfl, hcalls⟩ := hcheck.mended
    exact ⟨out, report, hdocument, ⟨hedit, hresult, hsuccess, rfl, hjudged, rfl⟩, hcalls⟩

theorem TrialCourse.mended {document : Document}
    (hc : TrialCourse config context d h trial (.mended document) phases calls) :
    ∃ during edit out report, (∀ call ∈ during, call.isInner = true) ∧ document = out.document ∧
      IsFix config context d trial edit out report ∧
      calls = during ++ [.verified out.document config.command (.ok report)] := by
  cases hc with
  | planned plan hplan =>
    cases hplan with
    | edited edit hcourse =>
      obtain ⟨out, report, hdocument, hfix, rfl⟩ := hcourse.mended rfl
      exact ⟨[.polled false, .planned h.explanation context (.ok plan), .polled false,
        .edited plan context (.ok edit), .polled false], edit, out, report, by simp [Call.isInner],
        hdocument, hfix, rfl⟩

theorem Rounds.mended {pending after : List Hypothesis} {trials : List Trial} {document : Document}
    (hr : Rounds config context d pending trials standing phases calls after)
    (hstanding : standing = .mended document) :
    ∃ trial, trials.getLast? = some trial ∧ ∃ during edit out report,
      (∀ call ∈ during, call.isInner = true) ∧ document = out.document ∧
      IsFix config context d trial edit out report ∧
      calls = during ++ [.verified out.document config.command (.ok report)] := by
  induction hr with
  | exhausted => cases hstanding
  | stopped => cases hstanding
  | @rejected _ _ _ first _ _ _ _ calls _ hfirst _ ih =>
    obtain ⟨trial, hlast, during, edit, out, report, hinner, hdocument, hfix, hcalls⟩ := ih hstanding
    refine ⟨trial, by rw [List.getLast?_cons, hlast]; rfl, .polled false :: calls ++ during, edit, out,
      report, ?_, hdocument, hfix, by rw [hcalls, List.append_assoc]⟩
    intro call hcall
    rcases List.mem_append.mp hcall with hcall | hcall
    · rcases List.mem_cons.mp hcall with rfl | hcall
      · rfl
      · exact hfirst.isInner call hcall
    · exact hinner call hcall
  | @ended _ _ trial _ _ _ hlast _ =>
    subst hstanding
    obtain ⟨during, edit, out, report, hinner, hdocument, hfix, hcalls⟩ := hlast.mended
    refine ⟨trial, rfl, .polled false :: during, edit, out, report, ?_, hdocument, hfix,
      by rw [hcalls, List.cons_append]⟩
    intro call hcall
    rcases List.mem_cons.mp hcall with rfl | hcall
    · rfl
    · exact hinner call hcall

/-! ### Cycles and sessions -/

variable {index used remaining : Nat} {startedAt : Timestamp} {evidence : List String} {id : String}
  {finished : Finished} {history : List Cycle} {outcome : SessionOutcome} {document : Document}

theorem CycleCourse.mended (hc : CycleCourse config index startedAt d evidence finished calls)
    (hsuccess : finished.cycle.outcome = .succeeded) (phase : Phase) :
    IsMended config d (finished.cycle.closed phase) (finished.mended.getD d) calls := by
  cases hc with
  | undiagnosed => cases hsuccess
  | clean => exact .clean evidence
  | stopped => cases hsuccess
  | unadvised => cases hsuccess
  | unlisted => cases hsuccess
  | unusable => cases hsuccess
  | exhausted => cases hsuccess
  | @ended context proposals _ _ _ _ _ standing _ calls _ _ hrounds =>
    cases standing with
    | going => cases hsuccess
    | stopped => cases hsuccess
    | mended document =>
      obtain ⟨trial, hlast, during, edit, out, report, hinner, rfl, hfix, rfl⟩ := hrounds.mended rfl
      refine .fixed evidence context
        (.polled false :: .proposed context (.ok proposals) :: during) ?_ rfl rfl trial hlast edit out
        report hfix
      simpa [Call.isInner] using hinner

theorem SessionCourse.outcomes
    (hs : SessionCourse config id d remaining used evidence history outcome document calls) :
    (∀ o ∈ (history.map Cycle.outcome).dropLast, o ≠ .succeeded) ∧
      (outcome = .succeeded ↔ (history.map Cycle.outcome).getLast? = some .succeeded) := by
  induction hs with
  | bound => simp
  | stopped => simp
  | cancelled hcourse hstop =>
    have := hcourse.outcome_of_isCancelled hstop
    simpa [Cycle.closed] using this
  | succeeded hcourse hgo hsuccess => simpa [Cycle.closed] using hsuccess
  | failed hcourse hgo hfailure => simpa [Cycle.closed] using hfailure
  | @next _ _ _ _ first _ _ history _ _ _ _ hfailure _ _ ih =>
    obtain ⟨hbefore, hlast⟩ := ih
    rw [List.map_cons]
    cases history with
    | nil => exact ⟨nofun, hlast.trans (by simpa using hfailure)⟩
    | cons cycle history =>
      rw [List.map_cons] at hbefore hlast ⊢
      rw [List.dropLast_cons_cons, List.getLast?_cons_cons]
      exact ⟨List.forall_mem_cons.mpr ⟨hfailure, hbefore⟩, hlast⟩

theorem SessionCourse.document_eq
    (hs : SessionCourse config id d remaining used evidence history outcome document calls)
    (hfailure : outcome ≠ .succeeded) : document = d := by
  induction hs with
  | bound => rfl
  | stopped => rfl
  | cancelled => rfl
  | succeeded => exact absurd rfl hfailure
  | failed => rfl
  | next _ _ _ _ _ ih => exact ih hfailure

theorem SessionCourse.mended
    (hs : SessionCourse config id d remaining used evidence history outcome document calls)
    (hsuccess : outcome = .succeeded) :
    ∃ cycle before during answer, history.getLast? = some cycle ∧
      calls = before ++ during ++ [.recordedCycle id cycle answer] ∧
      IsMended config d cycle document during := by
  induction hs with
  | bound => cases hsuccess
  | stopped => cases hsuccess
  | cancelled => cases hsuccess
  | @succeeded _ _ _ _ last calls hcourse _ hlast answer =>
    exact ⟨_, [.polled false], calls, answer, rfl, rfl, hcourse.mended hlast _⟩
  | failed => cases hsuccess
  | @next _ _ _ _ first calls _ _ _ _ _ _ _ answer _ ih =>
    obtain ⟨cycle, before, during, answer', hlast, rfl, hmended⟩ := ih hsuccess
    refine ⟨cycle, .polled false :: calls ++ .recordedCycle id first.cycle answer :: before, during,
      answer', by rw [List.getLast?_cons, hlast]; rfl, ?_, hmended⟩
    simp only [List.cons_append, List.append_assoc]

end Courses

/-- Whatever the collaborators answer and whenever the session is asked to stop: only the last cycle can
succeed, and the session succeeds if and only if it does; a session that does not succeed gives back
its input, and one that does gives back a document that its last cycle has had checked, if its diagnosis
has found anything at all. -/
theorem session_safe {W : Type} (config : SessionConfig) (c : Collaborators W) (r : Recorder W)
    (id : String) (d : Document) (w : W) :
    (∀ cycle ∈ (sessionResult config c r id d w).history.dropLast, cycle.outcome ≠ .succeeded) ∧
    ((sessionResult config c r id d w).outcome = .succeeded ↔
      ∃ cycle ∈ (sessionResult config c r id d w).history.getLast?, cycle.outcome = .succeeded) ∧
    ((sessionResult config c r id d w).outcome ≠ .succeeded →
      (sessionResult config c r id d w).document = d) ∧
    ((sessionResult config c r id d w).outcome = .succeeded →
      ∃ cycle before during answer answer',
        (sessionResult config c r id d w).history.getLast? = some cycle ∧
        sessionCalls config c r id d w = before ++ during ++
          [.recordedCycle id cycle answer,
            .recordedResult (sessionResult config c r id d w) answer'] ∧
        IsMended config d cycle (sessionResult config c r id d w).document during) := by
  obtain ⟨history, calls, answer', hcourse, hhistory, hcalls⟩ := sessionCourse config c r id d w
  have houtcomes :=
    (sessionResult config c r id d w).outcome.map_historyOf Cycle.outcome (fun _ _ => rfl) history
  rw [← hhistory] at houtcomes
  obtain ⟨hbefore, hlast⟩ := hcourse.outcomes
  rw [← houtcomes] at hbefore hlast
  refine ⟨?_, ?_, hcourse.document_eq, ?_⟩
  · intro cycle hcycle
    refine hbefore _ ?_
    rw [← List.map_dropLast]
    exact List.mem_map_of_mem hcycle
  · rw [hlast, List.getLast?_map]
    simp [Option.map_eq_some_iff]
  · intro hsuccess
    obtain ⟨cycle, before, during, answer, hcycle, rfl, hmended⟩ := hcourse.mended hsuccess
    refine ⟨cycle, before, during, answer, answer', ?_, ?_, hmended⟩
    · rw [hhistory, hsuccess]
      exact hcycle
    · rw [hcalls, List.append_assoc]
      rfl

end TextRepair
