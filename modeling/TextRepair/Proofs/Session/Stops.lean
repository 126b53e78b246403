import TextRepair.Proofs.Session.Bounds
import TextRepair.Proofs.Session.Endings

/-!
# Nobody is asked after a stop

Main statement, `session_stops`: if the flag is set before the session begins, nobody is asked at all; if
it is set from some request on, that is the last request of the session, and the session succeeds only
if this request has completed a successful cycle.

Every request comes right after a look at the flag that has found it unset (`Guarded`), so none is left
when all later looks find it set. How the session ends then is told by its last calls
(`SessionCourse.endsWith`): if it is not stopped, the request is the last call of the last cycle.
-/

namespace TextRepair

/-! ### Requests behind a look at the flag -/

/-- Every request among the calls comes right after a look at the flag that has found it unset. -/
inductive Guarded : List Call → Prop
  | nil : Guarded []
  | other {call : Call} {calls : List Call} (other : call.isRequest = false) (rest : Guarded calls) :
    Guarded (call :: calls)
  | request (call : Call) {calls : List Call} (rest : Guarded calls) :
    Guarded (.polled false :: call :: calls)

namespace Guarded

variable {calls calls' : List Call}

theorem append (hg : Guarded calls) (hg' : Guarded calls') : Guarded (calls ++ calls') := by
  induction hg with
  | nil => exact hg'
  | other hother _ ih => exact .other hother ih
  | request call _ ih => exact .request call ih

theorem after_request (hg : Guarded calls) {before after : List Call} {call : Call}
    (hcall : call.isRequest = true) (hcalls : calls = before ++ call :: after) : Guarded after := by
  induction hg generalizing before with
  | nil => simp at hcalls
  | other hother _ ih =>
    cases before with
    | nil =>
      obtain ⟨rfl, -⟩ := List.cons.inj hcalls
      rw [hcall] at hother
      cases hother
    | cons first before => exact ih (List.cons.inj hcalls).2
  | request second hrest ih =>
    -- The request is not the look, so it is the call right behind the look or a later one.
    rcases before with _ | ⟨first, _ | ⟨second', before⟩⟩
    · obtain ⟨rfl, -⟩ := List.cons.inj hcalls
      cases hcall
    · obtain ⟨-, rfl⟩ := List.cons.inj (List.cons.inj hcalls).2
      exact hrest
    · exact ih (List.cons.inj (List.cons.inj hcalls).2).2

theorem isRequest_eq_false (hg : Guarded calls) (hset : ∀ stop, .polled stop ∈ calls → stop = true) :
    ∀ call ∈ calls, call.isRequest = false := by
  induction hg with
  | nil => exact List.forall_mem_nil _
  | other hother _ ih =>
    exact List.forall_mem_cons.mpr
      ⟨hother, ih fun stop hstop => hset stop (List.mem_cons_of_mem _ hstop)⟩
  | request => exact absurd (hset false List.mem_cons_self) Bool.false_ne_true

end Guarded

section Courses

variable {config : SessionConfig} {context : Context} {d candidate : Document} {edit : Edit}
  {plan : String} {h : Hypothesis} {trial trial' : Trial} {standing : Standing} {phases : List Phase}
  {calls : List Call}

theorem CheckCourse.guarded
    (hc : CheckCourse config context candidate trial trial' standing phases calls) :
    Guarded calls := by
  cases hc with
  | stopped => exact .other rfl .nil
  | failed => exact .request _ .nil
  | fixed => exact .request _ .nil
  | turnedDown => exact .request _ .nil

theorem EditCourse.guarded (hc : EditCourse config context d edit trial trial' standing phases calls) :
    Guarded calls := by
  cases hc with
  | malformed => exact .nil
  | unplaced => exact .nil
  | applied _ _ _ hcheck => exact hcheck.guarded

theorem PlanCourse.guarded (hc : PlanCourse config context d plan trial trial' standing phases calls) :
    Guarded calls := by
  cases hc with
  | stopped => exact .other rfl .nil
  | failed => exact .request _ .nil
  | edited _ hedit => exact .request _ hedit.guarded

theorem TrialCourse.guarded (hc : TrialCourse config context d h trial standing phases calls) :
    Guarded calls := by
  cases hc with
  | stopped => exact .other rfl .nil
  | failed => exact .request _ .nil
  | planned _ hplan => exact .request _ hplan.guarded

theorem Rounds.guarded {pending after : List Hypothesis} {trials : List Trial}
    (hr : Rounds config context d pending trials standing phases calls after) : Guarded calls := by
  induction hr with
  | exhausted => exact .other rfl .nil
  | stopped => exact .other rfl .nil
  | rejected hfirst _ ih => exact .append (.other rfl hfirst.guarded) ih
  | ended hlast _ => exact .other rfl hlast.guarded

variable {index used remaining : Nat} {startedAt : Timestamp} {evidence : List String} {id : String}
  {finished : Finished} {history : List Cycle} {outcome : SessionOutcome} {document : Document}

theorem CycleCourse.guarded (hc : CycleCourse config index startedAt d evidence finished calls) :
    Guarded (.polled false :: calls) := by
  cases hc with
  | undiagnosed => exact .request _ .nil
  | clean => exact .request _ .nil
  | stopped => exact .request _ (.other rfl .nil)
  | unadvised => exact .request _ (.request _ .nil)
  | unlisted => exact .request _ (.request _ .nil)
  | unusable => exact .request _ (.request _ .nil)
  | exhausted _ _ _ _ _ _ _ hrounds => exact .request _ (.request _ hrounds.guarded)
  | ended _ _ _ _ _ _ _ hrounds => exact .request _ (.request _ hrounds.guarded)

theorem SessionCourse.guarded
    (hs : SessionCourse config id d remaining used evidence history outcome document calls) :
    Guarded calls := by
  induction hs with
  | bound => exact .nil
  | stopped => exact .other rfl .nil
  | cancelled hcourse => exact hcourse.guarded.append (.other rfl .nil)
  | succeeded hcourse => exact hcourse.guarded.append (.other rfl .nil)
  | failed hcourse => exact hcourse.guarded.append (.other rfl .nil)
  | next hcourse _ _ _ _ ih => exact hcourse.guarded.append (.other rfl ih)

end Courses

/-! ### The end of a session after a stop -/

theorem eq_of_append_cons_eq {α : Type} {p : α → Bool} {l l' r r' : List α} {a a' : α}
    (h : l ++ a :: r = l' ++ a' :: r') (ha : p a = false) (ha' : p a' = false)
    (hr : ∀ x ∈ r, p x = true) (hr' : ∀ x ∈ r', p x = true) : r = r' := by
  rcases List.append_eq_append_iff.mp h with ⟨m, -, hm⟩ | ⟨m, -, hm⟩
  · cases m with
    | nil => exact (List.cons.inj hm).2
    | cons x m =>
      have hmem : a' ∈ r := by simp [(List.cons.inj hm).2]
      rw [hr a' hmem] at ha'
      cases ha'
  · cases m with
    | nil => exact (List.cons.inj hm).2.symm
    | cons x m =>
      have hmem : a ∈ r' := by simp [(List.cons.inj hm).2]
      rw [hr' a hmem] at ha
      cases ha

theorem EndsWith.eq_records {id : String} {history : List Cycle} {outcome : SessionOutcome}
    {calls before after : List Call} {call : Call} {result : SessionResult}
    {answer' : Except RecordError Unit} (he : EndsWith id history outcome calls)
    (hgo : outcome ≠ .cancelled)
    (hcalls : calls ++ [.recordedResult result answer'] = before ++ call :: after)
    (hcall : call.isRequest = true) (hrecords : ∀ later ∈ after, later.isRecord = true) :
    ∃ cycle answer, history.getLast? = some cycle ∧
      after = [.recordedCycle id cycle answer, .recordedResult result answer'] := by
  cases he with
  | unused _ hlooks =>
    have hmem : call ∈ calls ++ [.recordedResult result answer'] := by simp [hcalls]
    rcases hlooks with rfl | rfl
    · rw [List.mem_singleton.mp hmem] at hcall
      cases hcall
    · rcases List.mem_cons.mp hmem with rfl | hmem
      · cases hcall
      · rw [List.mem_singleton.mp hmem] at hcall
        cases hcall
  | inCycle _ cycle _ during last answer hlast =>
    have hunrecorded : call.isRecord = false := by cases call <;> first | rfl | cases hcall
    rw [List.append_assoc] at hcalls
    exact ⟨cycle, answer, List.getLast?_concat,
      (eq_of_append_cons_eq hcalls hlast hunrecorded (by simp [Call.isRecord]) hrecords).symm⟩
  | betweenCycles => exact absurd rfl hgo

/-- How a session on `d` ends after a request from which on the flag is set, with the calls behind this
request. -/
inductive SessionResult.Ends (config : SessionConfig) (id : String) (d : Document)
    (result : SessionResult) : List Call → Prop
  | cancelled (after : List Call) (outcome : result.outcome = .cancelled)
      (document : result.document = d) : Ends config id d result after
  /-- The request has completed a successful cycle. -/
  | succeeded (cycle : Cycle) (answer answer' : Except RecordError Unit)
      (last : result.history.getLast? = some cycle) (success : cycle.outcome = .succeeded)
      (outcome : result.outcome = .succeeded) :
    Ends config id d result [.recordedCycle id cycle answer, .recordedResult result answer']
  /-- The request has ended the last cycle that the session may have. -/
  | exhausted (cycle : Cycle) (answer answer' : Except RecordError Unit)
      (last : result.history.getLast? = some cycle) (failure : cycle.outcome ≠ .succeeded)
      (used : result.history.length = config.maxCycles) (outcome : result.outcome = .exhausted)
      (document : result.document = d) :
    Ends config id d result [.recordedCycle id cycle answer, .recordedResult result answer']

theorem SessionResult.IsOfCourse.ends {config : SessionConfig} {id : String} {d : Document}
    {result : SessionResult} {calls before after : List Call} {call : Call}
    (hc : result.IsOfCourse config id d calls) (hcalls : calls = before ++ call :: after)
    (hcall : call.isRequest = true) (hset : ∀ stop, .polled stop ∈ after → stop = true) :
    (∀ later ∈ after, later.isRequest = false) ∧ result.Ends config id d after := by
  obtain ⟨history, during, answer', hcourse, hhistory, rfl⟩ := hc
  have hresult : Guarded [.recordedResult result answer'] := .other rfl .nil
  have hguarded := (hcourse.guarded.append hresult).after_request hcall hcalls
  have hnone := hguarded.isRequest_eq_false hset
  refine ⟨hnone, ?_⟩
  by_cases hgo : result.outcome = .cancelled
  · exact .cancelled _ hgo (hcourse.document_eq (by simp [hgo]))
  -- Nothing but records is left behind the request: a look would have stopped the session.
  have hrecords : ∀ later ∈ after, later.isRecord = true := by
    intro later hlater
    have hrequest := hnone later hlater
    cases later with
    | polled stop =>
      obtain rfl := hset stop hlater
      have hpolled : .polled true ∈ during ++ [.recordedResult result answer'] := by
        simp [hcalls, hlater]
      exact absurd (hcourse.cancelled_iff.mpr (by simpa using hpolled)) hgo
    | recordedCycle => rfl
    | recordedResult => rfl
    | _ => cases hrequest
  have hhistory : result.history = history := by rw [hhistory, SessionOutcome.historyOf, if_neg hgo]
  rw [← hhistory] at hcourse
  obtain ⟨cycle, answer, hcycle, rfl⟩ := hcourse.endsWith.eq_records hgo hcalls hcall hrecords
  by_cases hsuccess : cycle.outcome = .succeeded
  · refine .succeeded cycle answer answer' hcycle hsuccess (hcourse.outcomes.2.mpr ?_)
    rw [List.getLast?_map, hcycle, Option.map_some, hsuccess]
  · have hfailure : result.outcome ≠ .succeeded := by
      intro houtcome
      have := hcourse.outcomes.2.mp houtcome
      rw [List.getLast?_map, hcycle, Option.map_some] at this
      exact hsuccess (Option.some.inj this)
    have hexhausted : result.outcome = .exhausted := by
      cases houtcome : result.outcome with
      | succeeded => exact absurd houtcome hfailure
      | exhausted => rfl
      | cancelled => exact absurd houtcome hgo
    exact .exhausted cycle answer answer' hcycle hsuccess (hcourse.length_eq hexhausted) hexhausted
      (hcourse.document_eq hfailure)

/-! ### A stop before the session -/

theorem SessionConfig.maxCycles_pos {config : SessionConfig} (h : config.check = .ok ()) :
    0 < config.maxCycles := by
  by_contra hzero
  obtain hzero : config.maxCycles = 0 := by omega
  simp [check, hzero, bind, Except.bind] at h

section Programs

variable {W : Type} (config : SessionConfig) (c : Collaborators W) (r : Recorder W) (id : String)
  (d : Document) (w : W)

theorem runCycles_of_isCancelled (hstop : (c.isCancelled w).1 = true) (remaining : Nat)
    (session : SessionRun) : runCycles config c r id (remaining + 1) session w =
      ({ session with outcome := .cancelled }, (c.isCancelled w).2) := by
  unfold runCycles
  show (if (c.isCancelled w).1 = true then _ else _ : StateM W SessionRun) (c.isCancelled w).2 = _
  rw [if_pos hstop]
  rfl

theorem sessionResult_of_isCancelled (hcycles : 0 < config.maxCycles)
    (hstop : (c.isCancelled w).1 = true) :
    (sessionResult config c r id d w).outcome = .cancelled ∧
      (sessionResult config c r id d w).history = [] := by
  obtain ⟨remaining, hremaining⟩ := Nat.exists_eq_succ_of_ne_zero (Nat.ne_of_gt hcycles)
  have hrun := runCycles_of_isCancelled config c r id w hstop remaining ⟨d, [], [], .exhausted, []⟩
  rw [← Nat.succ_eq_add_one, ← hremaining] at hrun
  have houtcome : (sessionResult config c r id d w).outcome
      = (runCycles config c r id config.maxCycles ⟨d, [], [], .exhausted, []⟩ w).1.outcome := rfl
  have hhistory : (sessionResult config c r id d w).history
      = (runCycles config c r id config.maxCycles ⟨d, [], [], .exhausted, []⟩ w).1.outcome.historyOf
        (runCycles config c r id config.maxCycles ⟨d, [], [], .exhausted, []⟩ w).1.history := rfl
  rw [houtcome, hhistory, hrun]
  exact ⟨rfl, rfl⟩

end Programs

theorem SessionCourse.calls_of_nil {config : SessionConfig} {id : String} {d document : Document}
    {remaining used : Nat} {evidence : List String} {calls : List Call}
    (hs : SessionCourse config id d remaining used evidence [] .cancelled document calls) :
    calls = [.polled true] := by
  cases hs
  rfl

/-- Whatever the collaborators answer: a session that may have a cycle, as any with valid settings may
(`SessionConfig.maxCycles_pos`), and finds the flag set at first makes no request and gives back its
input. A request from which on every look finds the flag set is the last one; and unless it has completed
a successful cycle, the session gives back its input and counts as cancelled or, after its last possible
cycle, as exhausted. -/
theorem session_stops {W : Type} (config : SessionConfig) (c : Collaborators W) (r : Recorder W)
    (id : String) (d : Document) (w : W) :
    (0 < config.maxCycles → (c.isCancelled w).1 = true →
      (∃ answer, sessionCalls config c r id d w =
        [.polled true, .recordedResult (sessionResult config c r id d w) answer]) ∧
      (sessionResult config c r id d w).outcome = .cancelled ∧
      (sessionResult config c r id d w).document = d) ∧
    ∀ before call after, sessionCalls config c r id d w = before ++ call :: after →
      call.isRequest = true → (∀ stop, .polled stop ∈ after → stop = true) →
        (∀ later ∈ after, later.isRequest = false) ∧
        (sessionResult config c r id d w).Ends config id d after := by
  have hcourse := sessionCourse config c r id d w
  refine ⟨fun hcycles hstop => ?_, fun before call after hcalls hcall hset =>
    hcourse.ends hcalls hcall hset⟩
  obtain ⟨houtcome, hnone⟩ :=
    sessionResult_of_isCancelled config c r id d w hcycles hstop
  obtain ⟨history, before, answer, hsession, hhistory, hcalls⟩ := hcourse
  obtain rfl : history = [] := by
    rw [← List.length_eq_zero_iff, ← SessionOutcome.length_historyOf, ← hhistory, hnone]
    rfl
  rw [houtcome] at hsession
  refine ⟨⟨answer, ?_⟩, houtcome, hsession.document_eq nofun⟩
  rw [hcalls, hsession.calls_of_nil]
  rfl

/-- A diagnosis that fails and asks the session to stop. -/
def lateStop : Collaborators Bool where
  diagnose _ _ _ := (.error (.diagnosis "no answer"), true)
  propose _ := pure (.ok [])
  plan _ _ := pure (.ok "")
  edit _ _ := pure (.error .cancelled)
  verify _ _ := pure (.error .cancelled)
  isCancelled := get
  now _ := default

theorem session_stops_lateStop : ∃ after,
    sessionCalls .standard lateStop .none "s" default false =
      [.polled false] ++ .diagnosed default [] (.error (.diagnosis "no answer")) :: after ∧
    (∀ stop, .polled stop ∈ after → stop = true) ∧ (∀ later ∈ after, later.isRequest = false) ∧
    (sessionResult .standard lateStop .none "s" default false).Ends .standard "s" default after := by
  have hcalls : ∃ cycle result, sessionCalls .standard lateStop .none "s" default false =
      [.polled false] ++ .diagnosed default [] (.error (.diagnosis "no answer")) ::
        [.recordedCycle "s" cycle (.ok ()), .polled true, .recordedResult result (.ok ())] :=
    ⟨_, _, rfl⟩
  obtain ⟨cycle, result, hcalls⟩ := hcalls
  have hset : ∀ stop, .polled stop ∈ [Call.recordedCycle "s" cycle (.ok ()), .polled true,
      .recordedResult result (.ok ())] → stop = true := by simp
  exact ⟨_, hcalls, hset, (session_stops _ _ _ _ _ _).2 _ _ _ hcalls rfl hset⟩

end TextRepair
