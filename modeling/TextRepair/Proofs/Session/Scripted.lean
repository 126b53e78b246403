import TextRepair.Proofs.Session.Bounds
import TextRepair.Proofs.Session.Diagnosis
import TextRepair.Proofs.Session.Mirrors
import TextRepair.Session.Workshop

/-!
# Sessions that play a script

Main statement, `session_follows_script`: in a session whose advice comes from a script, each cycle that
asks for hypotheses tries those of the next cycle of the script, and every trial has the plan and the
edit of the first entry with its explanation, as far as it got (`Trial.Follows`, `Cycle.Follows`). No
trial is turned down for want of a plan or an edit.

The session notes what it was told, and the script is played from the notes alone: `Replay.AnswersAll`
says that a list of calls has the answers of a script, one call after the other. Every call keeps this
(`sessionCalls_answered`), so the courses of a session can be followed through the states of the script.
A plan is always told right before its edit is asked for, and in between nothing is asked of the script.
-/

namespace TextRepair

/-- Whether the call asks for hypotheses. -/
def Call.isProposal : Call → Bool
  | proposed .. => true
  | _ => false

/-- The plan that a script tells for an entry. -/
def ScriptedHypothesis.toldPlan (entry : ScriptedHypothesis) : String :=
  if entry.plan.isEmpty then entry.explanation else entry.plan

/-- The first entry with this explanation, outer blanks aside. -/
def entryFor? (entries : List ScriptedHypothesis) (explanation : String) : Option ScriptedHypothesis :=
  entries.find? fun entry => Text.trim entry.explanation = explanation

/-! ### A script and the calls that it answers -/

namespace Replay

/-- What a call leaves of the script. -/
def after (r : Replay) : Call → Replay
  | .proposed .. => (propose r).2
  | .planned explanation .. => (plan explanation r).2
  | .edited .. => (edit r).2
  | _ => r

/-- The call has the answer of the script, if it asks for advice. -/
def Answers (r : Replay) : Call → Prop
  | .proposed _ answer => answer = (propose r).1
  | .planned explanation _ answer => answer = (plan explanation r).1
  | .edited _ _ answer => answer = (edit r).1
  | _ => True

/-- What calls leave of the script. -/
def afterAll (r : Replay) (calls : List Call) : Replay :=
  calls.foldl after r

/-- The calls have the answers of the script, one after the other. -/
def AnswersAll (r : Replay) : List Call → Prop
  | [] => True
  | call :: calls => r.Answers call ∧ (r.after call).AnswersAll calls

variable {r : Replay} {calls calls' : List Call}

theorem answersAll_polled {stop : Bool} :
    r.AnswersAll (.polled stop :: calls) ↔ r.AnswersAll calls :=
  and_iff_right trivial

theorem answersAll_recordedCycle {id : String} {cycle : Cycle} {answer : Except RecordError Unit} :
    r.AnswersAll (.recordedCycle id cycle answer :: calls) ↔ r.AnswersAll calls :=
  and_iff_right trivial

theorem answersAll_append :
    r.AnswersAll (calls ++ calls') ↔ r.AnswersAll calls ∧ (r.afterAll calls).AnswersAll calls' := by
  induction calls generalizing r with
  | nil => simp [AnswersAll, afterAll]
  | cons call calls ih =>
    show r.Answers call ∧ (r.after call).AnswersAll (calls ++ calls') ↔ _
    rw [ih, ← and_assoc]
    rfl

theorem afterAll_append : r.afterAll (calls ++ calls') = (r.afterAll calls).afterAll calls' :=
  List.foldl_append

theorem propose_eq (r : Replay) :
    propose r = (.ok ((r.script.cycles.getD r.served []).map (·.explanation)),
      { r with served := r.served + 1 }) := rfl

theorem plan_of_entry {explanation : String} {entry : ScriptedHypothesis}
    (hentry : entryFor? r.hypotheses explanation = some entry) :
    plan explanation r = (.ok entry.toldPlan, { r with current := some entry }) := by
  unfold entryFor? at hentry
  rw [plan, get_bind_apply, hentry]
  rfl

theorem edit_of_current {entry : ScriptedHypothesis} (hcurrent : r.current = some entry) :
    edit r = (.ok entry.edit, { r with current := none }) := by
  rw [edit, get_bind_apply, hcurrent]
  rfl

theorem exists_current_of_plan (r : Replay) (explanation : String) :
    ∃ current, (plan explanation r).2 = { r with current } := by
  rw [plan, get_bind_apply]
  cases r.hypotheses.find? _ with
  | none => exact ⟨r.current, rfl⟩
  | some entry => exact ⟨some entry, rfl⟩

theorem exists_current_of_edit (r : Replay) : ∃ current, (edit r).2 = { r with current } := by
  rw [edit, get_bind_apply]
  cases r.current with
  | none => exact ⟨r.current, rfl⟩
  | some entry => exact ⟨none, rfl⟩

theorem after_eq (r : Replay) (call : Call) : (r.after call).script = r.script ∧
    (r.after call).served = r.served + if call.isProposal then 1 else 0 := by
  cases call with
  | proposed => exact ⟨rfl, rfl⟩
  | planned explanation =>
    obtain ⟨current, hafter⟩ := r.exists_current_of_plan explanation
    rw [after, hafter]
    exact ⟨rfl, rfl⟩
  | edited =>
    obtain ⟨current, hafter⟩ := r.exists_current_of_edit
    rw [after, hafter]
    exact ⟨rfl, rfl⟩
  | _ => exact ⟨rfl, rfl⟩

theorem afterAll_eq (r : Replay) (calls : List Call) : (r.afterAll calls).script = r.script ∧
    (r.afterAll calls).served = r.served + calls.countP Call.isProposal := by
  induction calls generalizing r with
  | nil => exact ⟨rfl, rfl⟩
  | cons call calls ih =>
    obtain ⟨hscript, hserved⟩ := ih (r.after call)
    obtain ⟨hscript', hserved'⟩ := r.after_eq call
    refine ⟨hscript.trans hscript', ?_⟩
    show ((r.after call).afterAll calls).served = _
    rw [hserved, hserved', List.countP_cons]
    omega

theorem hypotheses_afterAll (r : Replay) (hnone : calls.countP Call.isProposal = 0) :
    (r.afterAll calls).hypotheses = r.hypotheses := by
  obtain ⟨hscript, hserved⟩ := r.afterAll_eq calls
  rw [hypotheses, hypotheses, hscript, hserved, hnone, Nat.add_zero]

end Replay

/-! ### Collaborators that play a script -/

section Collaborators

variable {W : Type}

/-- Advice comes from a script that stands in the world, and nothing else touches that script. -/
structure Collaborators.Plays (c : Collaborators W) (replay : W → Replay) : Prop where
  propose : ∀ context, Mirrors (replay · = ·) (c.propose context) Replay.propose
  plan : ∀ explanation context,
    Mirrors (replay · = ·) (c.plan explanation context) (Replay.plan explanation)
  edit : ∀ plan context, Mirrors (replay · = ·) (c.edit plan context) Replay.edit
  diagnose : ∀ d evidence w, replay (c.diagnose d evidence w).2 = replay w
  verify : ∀ d command w, replay (c.verify d command w).2 = replay w
  isCancelled : ∀ w, replay (c.isCancelled w).2 = replay w

/-- Records do not touch the script. -/
structure Recorder.Spares (r : Recorder W) (replay : W → Replay) : Prop where
  recordCycle : ∀ id cycle w, replay (r.recordCycle id cycle w).2 = replay w
  recordResult : ∀ result w, replay (r.recordResult result w).2 = replay w

/-- The notes have the answers of the script, which has come as far as they go. -/
def IsAnswered (replay : W → Replay) (script : Script) (s : W × List Call) : Prop :=
  (Replay.ofScript script).AnswersAll s.2 ∧ replay s.1 = (Replay.ofScript script).afterAll s.2

variable {replay : W → Replay} {script : Script}

theorem IsAnswered.noted {α : Type} {call : StateM W α} {entry : α → Call} {s : W × List Call}
    (hs : IsAnswered replay script s) (hanswer : (replay s.1).Answers (entry (call s.1).1))
    (hafter : replay (call s.1).2 = (replay s.1).after (entry (call s.1).1)) :
    IsAnswered replay script (noted call entry s).2 := by
  obtain ⟨hanswers, hreplay⟩ := hs
  constructor
  · refine Replay.answersAll_append.mpr ⟨hanswers, ?_, trivial⟩
    rw [← hreplay]
    exact hanswer
  · show replay (call s.1).2 = (Replay.ofScript script).afterAll (s.2 ++ [entry (call s.1).1])
    rw [Replay.afterAll_append, ← hreplay, hafter]
    rfl

theorem Collaborators.Plays.keeps {c : Collaborators W} (hc : c.Plays replay) :
    c.observed.Keeps (IsAnswered replay script) where
  diagnose d evidence s hs := hs.noted trivial (hc.diagnose d evidence s.1)
  propose context s hs :=
    hs.noted (hc.propose context s.1 _ rfl).1 (hc.propose context s.1 _ rfl).2
  plan explanation context s hs :=
    hs.noted (hc.plan explanation context s.1 _ rfl).1 (hc.plan explanation context s.1 _ rfl).2
  edit plan context s hs :=
    hs.noted (hc.edit plan context s.1 _ rfl).1 (hc.edit plan context s.1 _ rfl).2
  verify d command s hs := hs.noted trivial (hc.verify d command s.1)
  isCancelled s hs := hs.noted trivial (hc.isCancelled s.1)

theorem Recorder.Spares.keeps {r : Recorder W} (hr : r.Spares replay) (id : String) :
    r.observed.Keeps (IsAnswered replay script) id where
  recordCycle cycle s hs := hs.noted trivial (hr.recordCycle id cycle s.1)
  recordResult result s _ hs := hs.noted trivial (hr.recordResult result s.1)

theorem sessionCalls_answered {c : Collaborators W} {r : Recorder W} (hc : c.Plays replay)
    (hr : r.Spares replay) (config : SessionConfig) (id : String) (d : Document) {w : W}
    (hw : replay w = .ofScript script) :
    (Replay.ofScript script).AnswersAll (sessionCalls config c r id d w) :=
  (runWith_keeps hc.keeps (hr.keeps id) config d (w := (w, [])) ⟨trivial, hw⟩).1

end Collaborators

/-! ### Trials -/

/-- Whether a rejection says that there was no plan or no edit. -/
def IsAdviceFailure (reason : String) : Prop :=
  "plan failed: ".toList <+: reason.toList ∨ "edit generation failed: ".toList <+: reason.toList

theorem not_isAdviceFailure {reason : String} (hplan : reason.toList.take 2 ≠ "pl".toList)
    (hedit : reason.toList.take 2 ≠ "ed".toList) : ¬IsAdviceFailure reason := by
  rintro (⟨rest, hrest⟩ | ⟨rest, hrest⟩)
  · exact hplan (by rw [← hrest]; rfl)
  · exact hedit (by rw [← hrest]; rfl)

theorem not_isAdviceFailure_append {start : String} (hlength : 2 ≤ start.toList.length)
    (hplan : start.toList.take 2 ≠ "pl".toList) (hedit : start.toList.take 2 ≠ "ed".toList)
    (rest : String) : ¬IsAdviceFailure (start ++ rest) := by
  apply not_isAdviceFailure <;> rwa [String.toList_append, List.take_append_of_le_length hlength]

theorem Verdict.not_isAdviceFailure (verdict : Verdict) : ¬IsAdviceFailure verdict.reason := by
  cases verdict with
  | newError => exact not_isAdviceFailure_append (by decide) (by decide) (by decide) _
  | _ => exact TextRepair.not_isAdviceFailure (by decide) (by decide)

/-- The trial has the plan and the edit of the entry, as far as it got: only a stop keeps it from them,
and it is never turned down for want of them. -/
inductive Trial.Follows (entry : ScriptedHypothesis) (calls : List Call) (trial : Trial) : Prop
  | stopped (stop : .polled true ∈ calls) (unrejected : trial.rejection = none)
      (plan : trial.plan = none ∨ trial.plan = some entry.toldPlan) (edit : trial.edit = none)
  | edited (plan : trial.plan = some entry.toldPlan) (edit : trial.edit = some entry.edit)
      (reason : ∀ reason, trial.rejection = some reason → ¬IsAdviceFailure reason)

section Courses

variable {config : SessionConfig} {context : Context} {d candidate : Document} {plan : String}
  {edit : Edit} {h : Hypothesis} {trial trial' : Trial} {standing : Standing} {phases : List Phase}
  {calls calls' : List Call} {entry : ScriptedHypothesis} {r : Replay}

theorem Trial.Follows.mono (hf : trial.Follows entry calls)
    (hcalls : .polled true ∈ calls → .polled true ∈ calls') : trial.Follows entry calls' := by
  cases hf with
  | stopped hstop hunrejected hplan hedit => exact .stopped (hcalls hstop) hunrejected hplan hedit
  | edited hplan hedit hreason => exact .edited hplan hedit hreason

theorem CheckCourse.follows
    (hc : CheckCourse config context candidate trial trial' standing phases calls)
    (hplan : trial.plan = some entry.toldPlan) (hedit : trial.edit = some entry.edit)
    (hunrejected : trial.rejection = none) : trial'.Follows entry calls := by
  cases hc with
  | stopped =>
    refine .edited hplan hedit ?_
    rw [hunrejected]
    exact nofun
  | failed e =>
    refine .edited hplan hedit ?_
    rintro _ ⟨⟩
    exact not_isAdviceFailure_append (by decide) (by decide) (by decide) _
  | fixed report =>
    refine .edited hplan hedit fun reason hreason => ?_
    rw [Trial.checked, hunrejected] at hreason
    cases hreason
  | turnedDown report verdict =>
    refine .edited hplan hedit ?_
    rintro _ ⟨⟩
    exact verdict.not_isAdviceFailure

theorem EditCourse.follows
    (hc : EditCourse config context d edit trial trial' standing phases calls)
    (hplan : trial.plan = some entry.toldPlan) (hedit : trial.edit = some entry.edit)
    (hunrejected : trial.rejection = none) : trial'.Follows entry calls := by
  cases hc with
  | malformed e =>
    refine .edited hplan hedit ?_
    rintro _ ⟨⟩
    exact not_isAdviceFailure_append (by decide) (by decide) (by decide) _
  | unplaced =>
    refine .edited hplan hedit ?_
    rintro _ ⟨⟩
    exact not_isAdviceFailure (by decide) (by decide)
  | applied out _ _ hcheck => exact hcheck.follows hplan hedit hunrejected

theorem PlanCourse.follows
    (hc : PlanCourse config context d plan trial trial' standing phases calls)
    (hcurrent : r.current = some entry) (hanswers : r.AnswersAll calls)
    (hplan : trial.plan = some entry.toldPlan) (hunedited : trial.edit = none)
    (hunrejected : trial.rejection = none) : trial'.Follows entry calls := by
  cases hc with
  | stopped => exact .stopped (by simp) hunrejected (Or.inr hplan) hunedited
  | failed e =>
    simp only [Replay.AnswersAll, Replay.Answers, Replay.after, Replay.edit_of_current hcurrent]
      at hanswers
    exact absurd hanswers.2.1 nofun
  | edited edit hcourse =>
    simp only [Replay.AnswersAll, Replay.Answers, Replay.after, Replay.edit_of_current hcurrent]
      at hanswers
    obtain rfl : edit = entry.edit := Except.ok.inj hanswers.2.1
    exact (hcourse.follows hplan rfl hunrejected).mono (by simp)

theorem TrialCourse.follows (hc : TrialCourse config context d h trial standing phases calls)
    (hentry : entryFor? r.hypotheses h.explanation = some entry) (hanswers : r.AnswersAll calls) :
    trial.Follows entry calls := by
  cases hc with
  | stopped => exact .stopped (by simp) rfl (Or.inl rfl) rfl
  | failed e =>
    simp only [Replay.AnswersAll, Replay.Answers, Replay.after, Replay.plan_of_entry hentry]
      at hanswers
    exact absurd hanswers.2.1 nofun
  | planned plan hcourse =>
    simp only [Replay.AnswersAll, Replay.Answers, Replay.after, Replay.plan_of_entry hentry]
      at hanswers
    obtain rfl : plan = entry.toldPlan := Except.ok.inj hanswers.2.1
    exact (hcourse.follows rfl hanswers.2.2 rfl rfl rfl).mono (by simp)

/-! ### Rounds -/

theorem IsAttempt.countP_isProposal {explanation : String}
    (ha : IsAttempt config context explanation calls) : calls.countP Call.isProposal = 0 := by
  cases ha <;> rfl

theorem countP_isProposal_requests (calls : List Call) :
    (requests calls).countP Call.isProposal = calls.countP Call.isProposal := by
  rw [requests, List.countP_filter]
  refine List.countP_congr fun call _ => ?_
  cases call <;> simp [Call.isProposal, Call.isRequest]

theorem TrialCourse.countP_isProposal
    (hc : TrialCourse config context d h trial standing phases calls) :
    calls.countP Call.isProposal = 0 := by
  rw [← countP_isProposal_requests]
  exact hc.isAttempt.countP_isProposal

variable {pending after : List Hypothesis} {trials : List Trial}

theorem Rounds.countP_isProposal
    (hr : Rounds config context d pending trials standing phases calls after) :
    calls.countP Call.isProposal = 0 := by
  induction hr with
  | exhausted => rfl
  | stopped => rfl
  | rejected hfirst _ ih =>
    rw [List.countP_append, List.countP_cons, hfirst.countP_isProposal, ih]
    rfl
  | ended hlast _ =>
    rw [List.countP_cons, hlast.countP_isProposal]
    rfl

theorem Rounds.follows (hr : Rounds config context d pending trials standing phases calls after)
    (hanswers : r.AnswersAll calls)
    (hentries : ∀ h ∈ pending, (entryFor? r.hypotheses h.explanation).isSome) :
    ∀ trial ∈ trials, ∃ entry, entryFor? r.hypotheses trial.explanation = some entry ∧
      trial.Follows entry calls := by
  induction hr generalizing r with
  | exhausted => exact fun trial htrial => absurd htrial List.not_mem_nil
  | stopped => exact fun trial htrial => absurd htrial List.not_mem_nil
  | @rejected h pending _ first trials _ _ _ calls calls' hfirst _ ih =>
    obtain ⟨hbefore, hrest⟩ := Replay.answersAll_append.mp hanswers
    rw [Replay.answersAll_polled] at hbefore
    have hsame : (r.afterAll (.polled false :: calls)).hypotheses = r.hypotheses :=
      r.hypotheses_afterAll (by rw [List.countP_cons, hfirst.countP_isProposal]; rfl)
    intro trial htrial
    rcases List.mem_cons.mp htrial with rfl | htrial
    · obtain ⟨entry, hentry⟩ := Option.isSome_iff_exists.mp (hentries h List.mem_cons_self)
      rw [hfirst.isClosed.explanation_eq]
      exact ⟨entry, hentry, (hfirst.follows hentry hbefore).mono fun hstop => by simp [hstop]⟩
    · obtain ⟨entry, hentry, hfollows⟩ := ih hrest
        (fun h hh => by rw [hsame]; exact hentries h (List.mem_cons_of_mem _ hh)) trial htrial
      rw [hsame] at hentry
      exact ⟨entry, hentry, hfollows.mono fun hstop => by simp [hstop]⟩
  | @ended h _ last _ _ calls hlast _ =>
    intro trial htrial
    obtain rfl := List.mem_singleton.mp htrial
    rw [Replay.answersAll_polled] at hanswers
    obtain ⟨entry, hentry⟩ := Option.isSome_iff_exists.mp (hentries h List.mem_cons_self)
    rw [hlast.isClosed.explanation_eq]
    exact ⟨entry, hentry, (hlast.follows hentry hanswers).mono fun hstop => by simp [hstop]⟩

end Courses

/-! ### Cycles -/

/-- The cycle with these calls plays the script, of which `served` cycles were told before: it tries the
usable explanations of the next one in their order, if it comes to ask for them. -/
structure Cycle.Follows (config : SessionConfig) (script : Script) (served : Nat) (cycle : Cycle)
    (calls : List Call) : Prop where
  asks : calls.countP Call.isProposal ≤ 1
  unasked : calls.countP Call.isProposal = 0 → cycle.trials = []
  tried : cycle.trials.map Trial.explanation <+:
    Ledger.usable (config.limit ((script.cycles.getD served []).map (·.explanation)))
  follows : ∀ trial ∈ cycle.trials, ∃ entry,
    entryFor? (script.cycles.getD served []) trial.explanation = some entry ∧ trial.Follows entry calls
  /-- A cycle past the end of the script ends at once. -/
  past : calls.countP Call.isProposal = 1 → script.cycles.length ≤ served →
    cycle.trials = [] ∧ cycle.outcome = .aborted LedgerError.emptyProposal.message

namespace Cycle.Follows

variable {config : SessionConfig} {script : Script} {served : Nat} {cycle : Cycle} {calls : List Call}

theorem of_unasked (hnone : calls.countP Call.isProposal = 0) (htrials : cycle.trials = []) :
    cycle.Follows config script served calls where
  asks := by rw [hnone]; exact Nat.zero_le 1
  unasked _ := htrials
  tried := by rw [htrials]; exact List.nil_prefix
  follows trial htrial := by simp [htrials] at htrial
  past hone := by rw [hnone] at hone; cases hone

theorem of_untried (hone : calls.countP Call.isProposal = 1) (htrials : cycle.trials = [])
    (hpast : script.cycles.length ≤ served →
      cycle.outcome = .aborted LedgerError.emptyProposal.message) :
    cycle.Follows config script served calls where
  asks := by rw [hone]
  unasked _ := htrials
  tried := by rw [htrials]; exact List.nil_prefix
  follows trial htrial := by simp [htrials] at htrial
  past _ hserved := ⟨htrials, hpast hserved⟩

theorem closed (hf : cycle.Follows config script served calls) (phase : Phase) :
    (cycle.closed phase).Follows config script served calls :=
  ⟨hf.asks, hf.unasked, hf.tried, hf.follows, hf.past⟩

end Cycle.Follows

theorem Ledger.eq_of_add_eq_error {l : Ledger} {explanations : List String} {e : LedgerError}
    (h : l.add explanations = .error e) : e = .emptyProposal := by
  unfold add at h
  split at h <;> cases h
  rfl

theorem Ledger.ne_nil_of_add {l : Ledger} {explanations : List String} {listed : Ledger × Added}
    (h : l.add explanations = .ok listed) : explanations ≠ [] := by
  rintro rfl
  cases h

theorem SessionConfig.limit_nil (config : SessionConfig) : config.limit [] = [] := by
  unfold limit
  split <;> simp

theorem limit_past (config : SessionConfig) {script : Script} {served : Nat}
    (hpast : script.cycles.length ≤ served) :
    config.limit ((script.cycles.getD served []).map (·.explanation)) = [] := by
  rw [List.getD_eq_getElem?_getD, List.getElem?_eq_none hpast]
  exact config.limit_nil

theorem SessionConfig.mem_of_mem_limit {config : SessionConfig} {proposals : List String}
    {text : String} (h : text ∈ config.limit proposals) : text ∈ proposals := by
  unfold limit at h
  split at h
  · exact List.mem_of_mem_take h
  · exact h

theorem isSome_entryFor? {config : SessionConfig} {entries : List ScriptedHypothesis} {ledger : Ledger}
    {added : Added}
    (hlisted : Ledger.empty.add (config.limit (entries.map (·.explanation))) = .ok (ledger, added))
    {h : Hypothesis} (hh : h ∈ ledger.hypotheses) : (entryFor? entries h.explanation).isSome := by
  have husable : h.explanation ∈ Ledger.usable (config.limit (entries.map (·.explanation))) := by
    rw [← (Ledger.registered_of_add hlisted).explanations]
    exact List.mem_map_of_mem hh
  rw [Ledger.usable, List.mem_eraseDups, List.mem_filter, List.mem_map] at husable
  obtain ⟨⟨text, htext, htrim⟩, -⟩ := husable
  obtain ⟨entry, hentry, rfl⟩ := List.mem_map.mp (SessionConfig.mem_of_mem_limit htext)
  exact List.find?_isSome.mpr ⟨entry, hentry, decide_eq_true htrim⟩

section Courses

variable {config : SessionConfig} {context : Context} {d : Document} {standing : Standing}
  {phases : List Phase} {calls : List Call} {r : Replay}

theorem Cycle.Follows.of_rounds {cycle : Cycle} {evidence : List String} {ledger : Ledger}
    {added : Added} {after : List Hypothesis}
    (hlisted : Ledger.empty.add (config.limit
      ((r.script.cycles.getD r.served []).map (·.explanation))) = .ok (ledger, added))
    (hr : Rounds config context d ledger.hypotheses cycle.trials standing phases calls after)
    (hanswers : { r with served := r.served + 1 }.AnswersAll calls) {answer : Answer (List String)} :
    cycle.Follows config r.script r.served
      (.polled false :: .diagnosed d evidence (.ok (some context)) :: .polled false
        :: .proposed context answer :: calls) := by
  have hone : (.polled false :: .diagnosed d evidence (.ok (some context)) :: .polled false
      :: .proposed context answer :: calls).countP Call.isProposal = 1 := by
    simp only [List.countP_cons, hr.countP_isProposal]
    rfl
  refine ⟨hone.le, fun hnone => ?_, ?_, ?_, fun _ hpast => ?_⟩
  · rw [hone] at hnone
    cases hnone
  · rw [← (Ledger.registered_of_add hlisted).explanations]
    exact hr.attempts.1
  · intro trial htrial
    obtain ⟨entry, hentry, hfollows⟩ :=
      hr.follows hanswers (fun h hh => isSome_entryFor? hlisted hh) trial htrial
    exact ⟨entry, hentry, hfollows.mono fun hstop => by simp [hstop]⟩
  · -- Past the end of the script nothing is registered.
    exact absurd (limit_past config hpast) (Ledger.ne_nil_of_add hlisted)

variable {index used remaining : Nat} {startedAt : Timestamp} {evidence : List String} {id : String}
  {finished : Finished} {history : List Cycle} {outcome : SessionOutcome} {document : Document}

theorem CycleCourse.follows (hc : CycleCourse config index startedAt d evidence finished calls)
    (hanswers : r.AnswersAll (.polled false :: calls)) :
    finished.cycle.Follows config r.script r.served (.polled false :: calls) := by
  cases hc with
  | undiagnosed => exact .of_unasked rfl rfl
  | clean => exact .of_unasked rfl rfl
  | stopped => exact .of_unasked rfl rfl
  | unadvised context e =>
    simp only [Replay.AnswersAll, Replay.Answers, Replay.after, Replay.propose_eq] at hanswers
    exact absurd hanswers.2.2.2.1 nofun
  | unlisted context proposals e hlisted =>
    refine .of_untried rfl rfl fun _ => ?_
    rw [Ledger.eq_of_add_eq_error hlisted]
    rfl
  | unusable context proposals ledger added hlisted =>
    simp only [Replay.AnswersAll, Replay.Answers, Replay.after, Replay.propose_eq] at hanswers
    obtain rfl := Except.ok.inj hanswers.2.2.2.1
    exact .of_untried rfl rfl fun hpast =>
      absurd (limit_past config hpast) (Ledger.ne_nil_of_add hlisted)
  | exhausted context proposals ledger added hlisted _ _ hrounds =>
    simp only [Replay.AnswersAll, Replay.Answers, Replay.after, Replay.propose_eq] at hanswers
    obtain rfl := Except.ok.inj hanswers.2.2.2.1
    exact .of_rounds hlisted hrounds hanswers.2.2.2.2
  | ended context proposals ledger added hlisted _ _ hrounds =>
    simp only [Replay.AnswersAll, Replay.Answers, Replay.after, Replay.propose_eq] at hanswers
    obtain rfl := Except.ok.inj hanswers.2.2.2.1
    exact .of_rounds hlisted hrounds hanswers.2.2.2.2

/-! ### Sessions -/

/-- Pieces of the calls of a session, each with the number of calls for hypotheses before it. -/
def numberedFrom (asked : Nat) : List (List Call) → List (Nat × List Call)
  | [] => []
  | piece :: pieces => (asked, piece) :: numberedFrom (asked + piece.countP Call.isProposal) pieces

theorem CycleCourse.follows_closed
    (hc : CycleCourse config index startedAt d evidence finished calls) (phase : Phase)
    (answer : Except RecordError Unit)
    (hanswers : r.AnswersAll
      (.polled false :: calls ++ [.recordedCycle id (finished.cycle.closed phase) answer]))
    {last : List Call} (hlast : ∀ call ∈ last, call.isCycleRecord = false) :
    List.Forall₂ (fun cycle piece => cycle.Follows config r.script piece.1 piece.2)
      [finished.cycle.closed phase] (numberedFrom r.served (callsByCycle (.polled false :: calls
        ++ [.recordedCycle id (finished.cycle.closed phase) answer] ++ last)).dropLast) := by
  have hbefore := (Replay.answersAll_append.mp hanswers).1
  rw [hc.callsByCycle_eq, List.nil_append, callsByCycle_of_no_record hlast]
  exact .cons ((hc.follows hbefore).closed phase) .nil

theorem SessionCourse.follows
    (hs : SessionCourse config id d remaining used evidence history outcome document calls)
    (hanswers : r.AnswersAll calls) {last : List Call}
    (hlast : ∀ call ∈ last, call.isCycleRecord = false) :
    List.Forall₂ (fun cycle piece => cycle.Follows config r.script piece.1 piece.2) history
      (numberedFrom r.served (callsByCycle (calls ++ last)).dropLast) := by
  induction hs generalizing r with
  | bound =>
    rw [List.nil_append, callsByCycle_of_no_record hlast]
    exact .nil
  | stopped =>
    rw [callsByCycle_of_no_record]
    · exact .nil
    · exact List.forall_mem_cons.mpr ⟨rfl, hlast⟩
  | cancelled hcourse _ answer => exact hcourse.follows_closed _ answer hanswers hlast
  | succeeded hcourse _ _ answer => exact hcourse.follows_closed _ answer hanswers hlast
  | failed hcourse _ _ answer => exact hcourse.follows_closed _ answer hanswers hlast
  | @next _ _ _ _ first calls _ _ _ _ hcourse _ _ answer _ ih =>
    obtain ⟨hbefore, hrest⟩ := Replay.answersAll_append.mp hanswers
    obtain ⟨hscript, hserved⟩ := r.afterAll_eq (.polled false :: calls)
    rw [hcourse.callsByCycle_eq, List.dropLast_cons_of_ne_nil (callsByCycle_ne_nil _)]
    refine .cons (hcourse.follows hbefore) ?_
    have hcycles := ih (Replay.answersAll_recordedCycle.mp hrest)
    rwa [hscript, hserved] at hcycles

end Courses

/-- Whatever the settings, the diagnoses and the checks are, and whenever the session is asked to stop: if
its advice comes from a fresh script, each cycle follows the script. The cycle that makes the next call
for hypotheses tries those of the next cycle of the script, each with the plan and the edit of its entry,
and past the end of the script it ends at once. -/
theorem session_follows_script {W : Type} {replay : W → Replay} {script : Script}
    (config : SessionConfig) (c : Collaborators W) (r : Recorder W) (id : String) (d : Document) (w : W)
    (hc : c.Plays replay) (hr : r.Spares replay) (hw : replay w = .ofScript script) :
    List.Forall₂ (fun cycle piece => cycle.Follows config script piece.1 piece.2)
      (sessionResult config c r id d w).history
      (numberedFrom 0 (callsByCycle (sessionCalls config c r id d w)).dropLast) := by
  have hanswers := sessionCalls_answered hc hr config id d hw
  obtain ⟨history, calls, answer, hcourse, hhistory, hcalls⟩ := sessionCourse config c r id d w
  rw [hhistory, hcalls]
  rw [hcalls] at hanswers
  refine SessionOutcome.forall₂_historyOf (fun hf => hf.closed _) _ ?_
  exact hcourse.follows (Replay.answersAll_append.mp hanswers).1 (by simp [Call.isCycleRecord])

/-- Players of a script who ask the session to stop as soon as a plan is told. -/
def stopAfterPlan : Collaborators Replay where
  diagnose _ _ := pure (.ok (some default))
  propose _ := Replay.propose
  plan explanation _ := Replay.plan explanation
  edit _ _ := Replay.edit
  verify _ _ := pure (.error .cancelled)
  isCancelled r := (r.current.isSome, r)
  now _ := default

theorem stopAfterPlan_plays : stopAfterPlan.Plays id where
  propose _ _ _ hr := by cases hr; exact ⟨rfl, rfl⟩
  plan _ _ _ _ hr := by cases hr; exact ⟨rfl, rfl⟩
  edit _ _ _ _ hr := by cases hr; exact ⟨rfl, rfl⟩
  diagnose _ _ _ := rfl
  verify _ _ _ := rfl
  isCancelled _ := rfl

/-- A script that explains one error in two ways that are the same without outer blanks. -/
def twiceTold : Script where
  cycles := [[⟨" typo", "", .snippets "a" "b"⟩, ⟨"typo ", "look again", .snippets "a" "c"⟩]]

theorem session_follows_script_twiceTold :
    List.Forall₂ (fun cycle piece => cycle.Follows .standard twiceTold piece.1 piece.2)
      (sessionResult .standard stopAfterPlan .none "s" default (.ofScript twiceTold)).history
      (numberedFrom 0 (callsByCycle
        (sessionCalls .standard stopAfterPlan .none "s" default (.ofScript twiceTold))).dropLast) ∧
    (sessionResult .standard stopAfterPlan .none "s" default (.ofScript twiceTold)).history.map
      (fun cycle => cycle.trials.map fun trial => (trial.explanation, trial.plan))
        = [[("typo", some " typo")]] :=
  ⟨session_follows_script .standard stopAfterPlan .none "s" default (.ofScript twiceTold)
    stopAfterPlan_plays ⟨fun _ _ _ => rfl, fun _ _ => rfl⟩ rfl, by decide +kernel⟩

/-! ### Sessions on files -/

/-- Sessions on files play the script that stands beside the files. -/
theorem Workshop.collaborators_plays (h : Host) (settings : CheckSettings) (config : SessionConfig) :
    (collaborators h settings config).Plays Workshop.replay where
  propose context w r hw := by
    obtain rfl : w.replay = r := hw
    exact ⟨rfl, rfl⟩
  plan explanation context w r hw := by
    obtain rfl : w.replay = r := hw
    exact ⟨rfl, rfl⟩
  edit plan context w r hw := by
    obtain rfl : w.replay = r := hw
    exact ⟨rfl, rfl⟩
  diagnose d evidence w := by
    show (diagnoseBy _ _ _ d evidence w).2.replay = w.replay
    rw [diagnoseBy_world]
    rfl
  verify d command w := rfl
  isCancelled w := rfl

theorem Workshop.recorder_spares (h : Host) (recording : Option Recording) :
    (recorder h recording).Spares Workshop.replay := by
  cases recording <;> exact ⟨fun _ _ _ => rfl, fun _ _ => rfl⟩

end TextRepair
