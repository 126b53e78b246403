import TextRepair.Proofs.Session.Agreement

/-!
# Rejections reach the next diagnosis

Main statement, `session_evidence`: the diagnosis of each cycle is given the rejections of all earlier
cycles, in their order and each one once (`Cycle.evidence`), and by then exactly these cycles have been
handed over as finished.

A cycle that another one follows was exhausted or has tried nothing. In the first case the session takes
the rejections of its ledger, which are those of its trials (`Rounds.evidence`); in the second there are
none of either kind (`CycleCourse.rejections_eq`).
-/

namespace TextRepair

/-- What a trial tells the next diagnosis. -/
def Trial.evidence? (trial : Trial) : Option String :=
  trial.rejection.map fun reason => trial.explanation ++ ": " ++ reason

/-- What a cycle tells the next diagnosis. -/
def Cycle.evidence (cycle : Cycle) : List String :=
  cycle.trials.filterMap Trial.evidence?

namespace Call

/-- The evidence that a diagnosis is given. -/
def evidence? : Call → Option (List String)
  | diagnosed _ evidence _ => some evidence
  | _ => none

/-- The cycle that is handed over as finished. -/
def finished? : Call → Option Cycle
  | recordedCycle _ cycle _ => some cycle
  | _ => none

theorem evidence?_of_isInner {call : Call} (h : call.isInner = true) : call.evidence? = none := by
  cases call with
  | diagnosed => cases h
  | _ => rfl

theorem finished?_of_isInner {call : Call} (h : call.isInner = true) : call.finished? = none := by
  cases call with
  | recordedCycle => cases h
  | _ => rfl

end Call

section Courses

variable {config : SessionConfig} {context : Context} {d : Document} {standing : Standing}
  {phases : List Phase} {calls : List Call} {pending after : List Hypothesis} {trials : List Trial}

theorem Rounds.evidence (hr : Rounds config context d pending trials standing phases calls after)
    (hgoing : standing = .going) (nextId : Nat) :
    (Ledger.mk after nextId).rejections = trials.filterMap Trial.evidence? := by
  induction hr with
  | exhausted => rfl
  | stopped => cases hgoing
  | @rejected h _ after trial trials _ _ _ _ _ hfirst _ ih =>
    have hrest := ih hgoing
    have hexplanation := hfirst.isClosed.explanation_eq
    have htold : (h.settled trial .going).rejection.map
        (fun reason => (h.settled trial .going).explanation ++ ": " ++ reason) = trial.evidence? := by
      rw [Trial.evidence?, hexplanation]
      rfl
    unfold Ledger.rejections at hrest ⊢
    rw [List.filterMap_cons, List.filterMap_cons, htold, hrest]
  | ended _ hover => exact absurd hgoing hover

variable {index used remaining : Nat} {startedAt : Timestamp} {evidence : List String} {id : String}
  {finished : Finished} {history : List Cycle} {outcome : SessionOutcome} {document : Document}

theorem CycleCourse.rejections_eq
    (hc : CycleCourse config index startedAt d evidence finished calls)
    (hgo : finished.isCancelled = false) (hfailure : finished.cycle.outcome ≠ .succeeded) :
    finished.rejections = finished.cycle.evidence := by
  cases hc with
  | undiagnosed => rfl
  | clean => exact absurd rfl hfailure
  | stopped => cases hgo
  | unadvised => rfl
  | unlisted => rfl
  | unusable => rfl
  | exhausted _ _ _ _ _ _ _ hrounds => exact hrounds.evidence rfl _
  | @ended _ _ _ _ _ _ _ standing _ _ _ _ _ hover =>
    cases standing with
    | going => exact absurd rfl hover
    | stopped => cases hgo
    | mended => exact absurd rfl hfailure

theorem CycleCourse.filterMap_evidence?
    (hc : CycleCourse config index startedAt d evidence finished calls) :
    (.polled false :: calls).filterMap Call.evidence? = [evidence] := by
  obtain ⟨answer, during, rfl, hinner⟩ := hc.calls_eq
  have hduring : during.filterMap Call.evidence? = [] :=
    List.filterMap_eq_nil_iff.mpr fun call hcall => Call.evidence?_of_isInner (hinner call hcall)
  show evidence :: during.filterMap Call.evidence? = [evidence]
  rw [hduring]

theorem CycleCourse.filterMap_finished?
    (hc : CycleCourse config index startedAt d evidence finished calls) :
    (.polled false :: calls).filterMap Call.finished? = [] :=
  List.filterMap_eq_nil_iff.mpr (hc.forall_mem (fun _ _ _ => rfl) Call.finished?_of_isInner)

theorem SessionCourse.filterMap_finished?
    (hs : SessionCourse config id d remaining used evidence history outcome document calls) :
    calls.filterMap Call.finished? = history := by
  induction hs with
  | bound => rfl
  | stopped => rfl
  | cancelled hcourse =>
    rw [List.filterMap_append, hcourse.filterMap_finished?]
    rfl
  | succeeded hcourse =>
    rw [List.filterMap_append, hcourse.filterMap_finished?]
    rfl
  | failed hcourse =>
    rw [List.filterMap_append, hcourse.filterMap_finished?]
    rfl
  | next hcourse _ _ _ _ ih =>
    rw [List.filterMap_append, hcourse.filterMap_finished?, List.nil_append]
    exact congrArg (List.cons _) ih

theorem CycleCourse.evidenceByCycle
    (hc : CycleCourse config index startedAt d evidence finished calls) (id : String) (cycle : Cycle)
    (answer : Except RecordError Unit) {last : List Call}
    (hlast : ∀ call ∈ last, call.isCycleRecord = false)
    (hnone : last.filterMap Call.evidence? = []) :
    (callsByCycle (.polled false :: calls ++ [.recordedCycle id cycle answer] ++ last)).map
        (List.filterMap Call.evidence?) = [[evidence], []] := by
  rw [hc.callsByCycle_eq, List.nil_append, callsByCycle_of_no_record hlast, List.map_cons,
    hc.filterMap_evidence?, List.map_singleton, hnone]

/-- The diagnoses from some point of a session on: each one is given what the session has had by that
point, and what the cycles from there on have told before it. -/
theorem SessionCourse.evidenceByCycle
    (hs : SessionCourse config id d remaining used evidence history outcome document calls)
    {last : List Call} (hlast : ∀ call ∈ last, call.isCycleRecord = false)
    (hnone : last.filterMap Call.evidence? = []) :
    (callsByCycle (calls ++ last)).map (List.filterMap Call.evidence?) =
      (List.range history.length).map (fun k => [evidence ++ (history.take k).flatMap Cycle.evidence])
        ++ [[]] := by
  induction hs with
  | bound =>
    rw [List.nil_append, callsByCycle_of_no_record hlast, List.map_singleton, hnone]
    rfl
  | stopped =>
    have hstopped : ∀ call ∈ .polled true :: last, call.isCycleRecord = false :=
      List.forall_mem_cons.mpr ⟨rfl, hlast⟩
    rw [List.singleton_append, callsByCycle_of_no_record hstopped, List.map_singleton,
      List.filterMap_cons_none rfl, hnone]
    rfl
  | cancelled hcourse =>
    rw [hcourse.evidenceByCycle _ _ _ hlast hnone]
    simp
  | succeeded hcourse =>
    rw [hcourse.evidenceByCycle _ _ _ hlast hnone]
    simp
  | failed hcourse =>
    rw [hcourse.evidenceByCycle _ _ _ hlast hnone]
    simp
  | @next _ _ evidence _ first _ _ history _ _ hcourse hgo hfailure _ _ ih =>
    -- The diagnosis of this cycle comes first; the later ones are given its evidence too.
    rw [hcourse.callsByCycle_eq, List.map_cons, hcourse.filterMap_evidence?, ih,
      hcourse.rejections_eq hgo hfailure, List.length_cons, List.range_succ_eq_map, List.map_cons,
      List.map_map, List.take_zero, List.flatMap_nil, List.append_nil, List.cons_append]
    simp only [Function.comp_def, List.take_succ_cons, List.flatMap_cons, List.append_assoc]

end Courses

theorem SessionOutcome.flatMap_evidence_historyOf (outcome : SessionOutcome) (history : List Cycle)
    (k : Nat) :
    ((outcome.historyOf history).take k).flatMap Cycle.evidence
      = (history.take k).flatMap Cycle.evidence := by
  have hsame := outcome.map_historyOf Cycle.evidence (fun _ _ => rfl) history
  rw [List.flatMap_def, List.flatMap_def, List.map_take, List.map_take, hsame]

/-- Whatever the collaborators answer and whenever the session is asked to stop: each cycle has one
diagnosis, which is given the rejections of the trials of all earlier cycles in their order, and nothing
else; the calls before it hand over exactly these cycles. -/
theorem session_evidence {W : Type} (config : SessionConfig) (c : Collaborators W) (r : Recorder W)
    (id : String) (d : Document) (w : W) :
    (callsByCycle (sessionCalls config c r id d w)).map (List.filterMap Call.evidence?) =
      (List.range (sessionResult config c r id d w).history.length).map
        (fun k => [((sessionResult config c r id d w).history.take k).flatMap Cycle.evidence])
        ++ [[]] ∧
    ((sessionCalls config c r id d w).filterMap Call.finished?).map Cycle.trials =
      (sessionResult config c r id d w).history.map Cycle.trials := by
  obtain ⟨history, calls, answer, hcourse, hhistory, hcalls⟩ := sessionCourse config c r id d w
  have hlength : ((sessionResult config c r id d w).outcome.historyOf history).length
      = history.length := by
    have hsame := SessionOutcome.map_historyOf (sessionResult config c r id d w).outcome Cycle.index
      (fun _ _ => rfl) history
    simpa using congrArg List.length hsame
  rw [hhistory, hcalls, hlength]
  constructor
  · rw [hcourse.evidenceByCycle (by simp [Call.isCycleRecord]) rfl]
    simp only [SessionOutcome.flatMap_evidence_historyOf, List.nil_append]
  · rw [List.filterMap_append, hcourse.filterMap_finished?,
      SessionOutcome.map_historyOf _ Cycle.trials (fun _ _ => rfl)]
    exact congrArg _ (List.append_nil _)

end TextRepair
