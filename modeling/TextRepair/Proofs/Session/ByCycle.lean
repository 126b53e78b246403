import TextRepair.Proofs.Session.Course
import Mathlib.Data.List.Forall2

/-!
# The calls of each cycle

Every finished cycle goes to the recorder, so the records cut the calls of a session into one piece for
each cycle and one more for what comes after the last cycle (`callsByCycle`). The piece of a cycle
begins with the look at the flag and the diagnosis; what follows in it are calls of other kinds
(`Call.isInner`). What holds of every cycle and its piece holds of the whole session
(`SessionCourse.forall₂_byCycle`).
-/

namespace TextRepair

/-- Whether the call is one of those that a cycle makes after its diagnosis. -/
def Call.isInner : Call → Bool
  | diagnosed .. | recordedCycle .. | recordedResult .. => false
  | _ => true

/-- Whether the call hands a finished cycle to the recorder. -/
def Call.isCycleRecord : Call → Bool
  | recordedCycle .. => true
  | _ => false

/-- The calls of each cycle, and those after the last one. -/
def callsByCycle (calls : List Call) : List (List Call) :=
  calls.splitOnP Call.isCycleRecord

theorem callsByCycle_record {calls : List Call} (hcalls : ∀ call ∈ calls, call.isCycleRecord = false)
    (id : String) (cycle : Cycle) (answer : Except RecordError Unit) (rest : List Call) :
    callsByCycle (calls ++ .recordedCycle id cycle answer :: rest) = calls :: callsByCycle rest :=
  List.splitOnP_append_cons_of_forall_mem hcalls _ rfl rest

theorem callsByCycle_of_no_record {calls : List Call}
    (hcalls : ∀ call ∈ calls, call.isCycleRecord = false) : callsByCycle calls = [calls] :=
  List.splitOnP_eq_singleton hcalls

theorem callsByCycle_ne_nil (calls : List Call) : callsByCycle calls ≠ [] :=
  List.splitOnP_ne_nil _ _

theorem Call.isCycleRecord_of_isInner {call : Call} (h : call.isInner = true) :
    call.isCycleRecord = false := by
  cases call with
  | recordedCycle => cases h
  | _ => rfl

section Courses

variable {config : SessionConfig} {context : Context} {d candidate : Document} {edit : Edit}
  {plan : String} {h : Hypothesis} {trial trial' : Trial} {standing : Standing} {phases : List Phase}
  {calls : List Call}

theorem CheckCourse.isInner
    (hc : CheckCourse config context candidate trial trial' standing phases calls) :
    ∀ call ∈ calls, call.isInner = true := by
  cases hc <;> simp [Call.isInner]

theorem EditCourse.isInner (hc : EditCourse config context d edit trial trial' standing phases calls) :
    ∀ call ∈ calls, call.isInner = true := by
  cases hc with
  | malformed => exact fun call hcall => absurd hcall List.not_mem_nil
  | unplaced => exact fun call hcall => absurd hcall List.not_mem_nil
  | applied out hresult hsuccess hcheck => exact hcheck.isInner

theorem PlanCourse.isInner (hc : PlanCourse config context d plan trial trial' standing phases calls) :
    ∀ call ∈ calls, call.isInner = true := by
  cases hc with
  | stopped => simp [Call.isInner]
  | failed => simp [Call.isInner]
  | edited edit hedit => simpa [Call.isInner] using hedit.isInner

theorem TrialCourse.isInner (hc : TrialCourse config context d h trial standing phases calls) :
    ∀ call ∈ calls, call.isInner = true := by
  cases hc with
  | stopped => simp [Call.isInner]
  | failed => simp [Call.isInner]
  | planned plan hplan => simpa [Call.isInner] using hplan.isInner

theorem Rounds.isInner {pending after : List Hypothesis} {trials : List Trial}
    (hr : Rounds config context d pending trials standing phases calls after) :
    ∀ call ∈ calls, call.isInner = true := by
  induction hr with
  | exhausted => simp [Call.isInner]
  | stopped => simp [Call.isInner]
  | rejected hfirst _ ih =>
    intro call hcall
    rcases List.mem_append.mp hcall with hcall | hcall
    · rcases List.mem_cons.mp hcall with rfl | hcall
      · rfl
      · exact hfirst.isInner call hcall
    · exact ih call hcall
  | ended hlast _ =>
    intro call hcall
    rcases List.mem_cons.mp hcall with rfl | hcall
    · rfl
    · exact hlast.isInner call hcall

variable {index : Nat} {startedAt : Timestamp} {evidence : List String} {finished : Finished}

theorem CycleCourse.calls_eq (hc : CycleCourse config index startedAt d evidence finished calls) :
    ∃ answer during, calls = .diagnosed d evidence answer :: during ∧
      ∀ call ∈ during, call.isInner = true := by
  cases hc with
  | undiagnosed => exact ⟨_, _, rfl, by simp⟩
  | clean => exact ⟨_, _, rfl, by simp⟩
  | stopped => exact ⟨_, _, rfl, by simp [Call.isInner]⟩
  | unadvised => exact ⟨_, _, rfl, by simp [Call.isInner]⟩
  | unlisted => exact ⟨_, _, rfl, by simp [Call.isInner]⟩
  | unusable => exact ⟨_, _, rfl, by simp [Call.isInner]⟩
  | exhausted _ _ _ _ _ _ _ hrounds => exact ⟨_, _, rfl, by simpa [Call.isInner] using hrounds.isInner⟩
  | ended _ _ _ _ _ _ _ hrounds => exact ⟨_, _, rfl, by simpa [Call.isInner] using hrounds.isInner⟩

theorem CycleCourse.forall_mem {P : Call → Prop}
    (hc : CycleCourse config index startedAt d evidence finished calls)
    (hdiagnosed : ∀ d evidence answer, P (.diagnosed d evidence answer))
    (hinner : ∀ {call : Call}, call.isInner = true → P call) :
    ∀ call ∈ .polled false :: calls, P call := by
  obtain ⟨found, during, rfl, hduring⟩ := hc.calls_eq
  exact List.forall_mem_cons.mpr ⟨hinner rfl, List.forall_mem_cons.mpr
    ⟨hdiagnosed d evidence found, fun call hcall => hinner (hduring call hcall)⟩⟩

theorem CycleCourse.callsByCycle_eq
    (hc : CycleCourse config index startedAt d evidence finished calls) (id : String) (cycle : Cycle)
    (answer : Except RecordError Unit) (calls' last : List Call) :
    callsByCycle (.polled false :: calls ++ .recordedCycle id cycle answer :: calls' ++ last)
      = (.polled false :: calls) :: callsByCycle (calls' ++ last) := by
  rw [List.append_assoc]
  exact callsByCycle_record (hc.forall_mem (fun _ _ _ => rfl) Call.isCycleRecord_of_isInner) id cycle
    answer _

variable {used remaining : Nat} {id : String} {history : List Cycle} {outcome : SessionOutcome}
  {document : Document}

/-- What holds of each cycle and its piece, and goes on to hold when the cycle ends the session. -/
theorem SessionCourse.forall₂_byCycle {P : Cycle → List Call → Prop}
    (hs : SessionCourse config id d remaining used evidence history outcome document calls)
    (hcycle : ∀ {index startedAt evidence finished calls},
      CycleCourse config index startedAt d evidence finished calls →
        P finished.cycle (.polled false :: calls))
    (hclosed : ∀ {cycle calls phase}, phase.isTerminal = true → P cycle calls →
      P (cycle.closed phase) calls)
    {last : List Call} (hlast : ∀ call ∈ last, call.isCycleRecord = false) :
    List.Forall₂ P history (callsByCycle (calls ++ last)).dropLast := by
  have hsingle {index : Nat} {startedAt : Timestamp} {evidence : List String} {finished : Finished}
      {calls : List Call} (hc : CycleCourse config index startedAt d evidence finished calls)
      {phase : Phase} (hphase : phase.isTerminal = true) (answer : Except RecordError Unit) :
      List.Forall₂ P [finished.cycle.closed phase] (callsByCycle (.polled false :: calls
        ++ [.recordedCycle id (finished.cycle.closed phase) answer] ++ last)).dropLast := by
    rw [hc.callsByCycle_eq, List.nil_append, callsByCycle_of_no_record hlast]
    exact .cons (hclosed hphase (hcycle hc)) .nil
  induction hs with
  | bound =>
    rw [List.nil_append, callsByCycle_of_no_record hlast]
    exact .nil
  | stopped =>
    rw [callsByCycle_of_no_record]
    · exact .nil
    · exact List.forall_mem_cons.mpr ⟨rfl, hlast⟩
  | cancelled hcourse _ answer => exact hsingle hcourse rfl answer
  | succeeded hcourse _ _ answer => exact hsingle hcourse rfl answer
  | failed hcourse _ _ answer => exact hsingle hcourse rfl answer
  | next hcourse _ _ _ _ ih =>
    rw [hcourse.callsByCycle_eq, List.dropLast_cons_of_ne_nil (callsByCycle_ne_nil _)]
    exact .cons (hcycle hcourse) ih

end Courses

end TextRepair
