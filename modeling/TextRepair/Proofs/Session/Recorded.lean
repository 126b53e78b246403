import TextRepair.Proofs.Session.Evidence
import TextRepair.Proofs.Session.Stops

/-!
# What is recorded of a session

Main statement, `session_records`: the result that is recorded, as the last call of a session, is the one
that the session returns; and the cycles that were recorded are its history, unless the session was
stopped between two cycles (`StoppedBetween`). Then the last cycle goes to its end after it was recorded,
and its record lacks the last phase.
-/

namespace TextRepair

namespace Call

/-- The result that is handed over. -/
def result? : Call → Option SessionResult
  | recordedResult result _ => some result
  | _ => none

theorem result?_of_isInner {call : Call} (h : call.isInner = true) : call.result? = none := by
  cases call with
  | recordedResult => cases h
  | _ => rfl

end Call

/-- The cycles among the calls that were recorded. -/
def recordedCycles (calls : List Call) : List Cycle :=
  calls.filterMap Call.finished?

/-- A look at the flag after the record of a cycle was the last thing before the session ended. -/
def StoppedBetween (calls : List Call) : Prop :=
  ∃ id cycle answer result answer',
    [.recordedCycle id cycle answer, .polled true, .recordedResult result answer'] <:+ calls

section Courses

variable {config : SessionConfig} {d document : Document} {calls : List Call} {index used remaining : Nat}
  {startedAt : Timestamp} {evidence : List String} {id : String} {finished : Finished}
  {history : List Cycle} {outcome : SessionOutcome}

theorem CycleCourse.filterMap_result?
    (hc : CycleCourse config index startedAt d evidence finished calls) :
    (.polled false :: calls).filterMap Call.result? = [] :=
  List.filterMap_eq_nil_iff.mpr (hc.forall_mem (fun _ _ _ => rfl) Call.result?_of_isInner)

theorem SessionCourse.filterMap_result?
    (hs : SessionCourse config id d remaining used evidence history outcome document calls) :
    calls.filterMap Call.result? = [] := by
  induction hs with
  | bound => rfl
  | stopped => rfl
  | cancelled hcourse => rw [List.filterMap_append, hcourse.filterMap_result?]; rfl
  | succeeded hcourse => rw [List.filterMap_append, hcourse.filterMap_result?]; rfl
  | failed hcourse => rw [List.filterMap_append, hcourse.filterMap_result?]; rfl
  | next hcourse _ _ _ _ ih =>
    rw [List.filterMap_append, hcourse.filterMap_result?, List.nil_append]
    exact ih

end Courses

theorem SessionOutcome.historyOf_cancelled (before : List Cycle) (last : Cycle) :
    historyOf .cancelled (before ++ [last]) = before ++ [last.markedCancelled] := by
  rw [historyOf, if_pos rfl, markCancelled_append_singleton]

/-- The late end of a session changes its history if and only if the session was stopped between two
cycles. -/
theorem EndsWith.historyOf_cases {id : String} {history : List Cycle} {outcome : SessionOutcome}
    {calls : List Call} (he : EndsWith id history outcome calls) (result : SessionResult)
    (answer' : Except RecordError Unit) :
    ¬StoppedBetween (calls ++ [.recordedResult result answer']) ∧ outcome.historyOf history = history ∨
    StoppedBetween (calls ++ [.recordedResult result answer']) ∧
      ∃ before last, history = before ++ [last] ∧
        outcome.historyOf history = before ++ [last.closed .sessionCancelled] := by
  cases he with
  | unused _ hlooks =>
    refine Or.inl ⟨?_, ?_⟩
    · rintro ⟨_, _, _, _, _, hsuffix⟩
      have hlength := hsuffix.length_le
      rcases hlooks with rfl | rfl <;> simp at hlength
    · rw [SessionOutcome.historyOf]
      split <;> rfl
  | inCycle before cycle _ during last answer hinner hclosed =>
    refine Or.inl ⟨?_, ?_⟩
    · rintro ⟨_, _, _, _, _, earlier, hsuffix⟩
      rw [List.append_assoc] at hsuffix
      obtain ⟨-, hlast⟩ := List.append_inj' hsuffix rfl
      cases hlast
    · by_cases hcancelled : outcome = .cancelled
      · rw [hcancelled, SessionOutcome.historyOf_cancelled, Cycle.markedCancelled,
          if_pos (hclosed hcancelled)]
      · rw [SessionOutcome.historyOf, if_neg hcancelled]
  | betweenCycles before cycle during answer hunclosed =>
    refine Or.inr ⟨⟨id, cycle, answer, result, answer', during, ?_⟩, before, cycle, rfl, ?_⟩
    · rw [List.append_assoc]
      rfl
    · rw [SessionOutcome.historyOf_cancelled, Cycle.markedCancelled, if_neg hunclosed]

theorem Cycle.closed_ne (cycle : Cycle) (phase : Phase) : cycle.closed phase ≠ cycle := by
  intro hsame
  have hlength := congrArg (fun cycle => cycle.phases.length) hsame
  simp [Cycle.closed] at hlength

/-- Whatever the collaborators answer and whenever the session is asked to stop: the one result that is
recorded, last of all, is the result of the session. The recorded cycles are its history if and only if
the session was not stopped between two cycles; if it was, they differ from it in the last phase of the
last cycle only. -/
theorem session_records {W : Type} (config : SessionConfig) (c : Collaborators W) (r : Recorder W)
    (id : String) (d : Document) (w : W) :
    (sessionCalls config c r id d w).filterMap Call.result? = [sessionResult config c r id d w] ∧
    (∃ answer, (sessionCalls config c r id d w).getLast? =
      some (.recordedResult (sessionResult config c r id d w) answer)) ∧
    (recordedCycles (sessionCalls config c r id d w) = (sessionResult config c r id d w).history ↔
      ¬StoppedBetween (sessionCalls config c r id d w)) ∧
    (StoppedBetween (sessionCalls config c r id d w) → ∃ before last,
      recordedCycles (sessionCalls config c r id d w) = before ++ [last] ∧
      (sessionResult config c r id d w).history = before ++ [last.closed .sessionCancelled]) := by
  obtain ⟨history, calls, answer, hcourse, hhistory, hcalls⟩ := sessionCourse config c r id d w
  have hrecorded : recordedCycles (sessionCalls config c r id d w) = history := by
    rw [recordedCycles, hcalls, List.filterMap_append, hcourse.filterMap_finished?]
    exact List.append_nil history
  rw [hrecorded, hhistory, hcalls]
  refine ⟨?_, ⟨answer, List.getLast?_concat⟩, ?_⟩
  · rw [List.filterMap_append, hcourse.filterMap_result?]
    rfl
  rcases hcourse.endsWith.historyOf_cases (sessionResult config c r id d w) answer with
    ⟨hgo, hsame⟩ | ⟨hstopped, before, last, hlast, hlate⟩
  · exact ⟨⟨fun _ => hgo, fun _ => hsame.symm⟩, fun hstopped => absurd hstopped hgo⟩
  · refine ⟨⟨fun hsame => ?_, fun hgo => absurd hstopped hgo⟩, fun _ => ⟨before, last, hlast, hlate⟩⟩
    rw [hlate, hlast] at hsame
    have := List.append_cancel_left hsame
    exact absurd (List.cons.inj this).1.symm (last.closed_ne _)

/-- A session whose first diagnosis fails and asks it to stop returns a cycle that has ended as cancelled;
the cycle was recorded before. -/
theorem not_records_lateStop :
    recordedCycles (sessionCalls .standard lateStop .none "s" default false) ≠
      (sessionResult .standard lateStop .none "s" default false).history := by
  have hrecorded : (recordedCycles (sessionCalls .standard lateStop .none "s" default false)).map
      Cycle.phases = [[.diagnosing, .cycleAborted]] := by decide +kernel
  have hreturned : (sessionResult .standard lateStop .none "s" default false).history.map Cycle.phases
      = [[.diagnosing, .cycleAborted, .sessionCancelled]] := by decide +kernel
  intro hsame
  rw [hsame, hreturned] at hrecorded
  simp at hrecorded

end TextRepair
