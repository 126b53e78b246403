import TextRepair.Proofs.Session.ByCycle
import TextRepair.Proofs.Session.Walks

/-!
# The last calls of a session

The calls of a session end in one of three ways (`EndsWith`, `SessionCourse.endsWith`): there was no
cycle; or the record of the last cycle comes last, right after a call of that cycle; or the session was
stopped between two cycles, by a look at the flag right after the record of the last one.
-/

namespace TextRepair

/-- Whether the call hands something to the recorder. -/
def Call.isRecord : Call → Bool
  | recordedCycle .. | recordedResult .. => true
  | _ => false

theorem Call.isRecord_of_isInner {call : Call} (h : call.isInner = true) : call.isRecord = false := by
  cases call with
  | recordedCycle => cases h
  | recordedResult => cases h
  | _ => rfl

/-- How the calls of the cycles end, in a session of this outcome in which these cycles were recorded. -/
inductive EndsWith (id : String) : List Cycle → SessionOutcome → List Call → Prop
  | unused (outcome : SessionOutcome) {calls : List Call} (looks : calls = [] ∨ calls = [.polled true]) :
    EndsWith id [] outcome calls
  | inCycle (before : List Cycle) (cycle : Cycle) (outcome : SessionOutcome) (calls : List Call)
      (last : Call) (answer : Except RecordError Unit) (inner : last.isRecord = false)
      (closed : outcome = .cancelled → cycle.phases.getLast? = some .sessionCancelled) :
    EndsWith id (before ++ [cycle]) outcome (calls ++ [last, .recordedCycle id cycle answer])
  | betweenCycles (before : List Cycle) (cycle : Cycle) (calls : List Call)
      (answer : Except RecordError Unit)
      (unclosed : cycle.phases.getLast? ≠ some .sessionCancelled) :
    EndsWith id (before ++ [cycle]) .cancelled (calls ++ [.recordedCycle id cycle answer, .polled true])

theorem EndsWith.cons {id : String} {history : List Cycle} {outcome : SessionOutcome}
    {calls : List Call} (he : EndsWith id history outcome calls) (hne : history ≠ []) (first : Cycle)
    (calls' : List Call) : EndsWith id (first :: history) outcome (calls' ++ calls) := by
  cases he with
  | unused => exact absurd rfl hne
  | inCycle before cycle _ calls last answer hinner hclosed =>
    rw [← List.append_assoc]
    exact .inCycle (first :: before) cycle _ _ last answer hinner hclosed
  | betweenCycles before cycle calls answer hunclosed =>
    rw [← List.append_assoc]
    exact .betweenCycles (first :: before) cycle _ answer hunclosed

section Courses

variable {config : SessionConfig} {d document : Document} {calls : List Call} {index used remaining : Nat}
  {startedAt : Timestamp} {evidence : List String} {id : String} {finished : Finished}
  {history : List Cycle} {outcome : SessionOutcome}

theorem CycleCourse.endsWith (hc : CycleCourse config index startedAt d evidence finished calls)
    (outcome : SessionOutcome) (phase : Phase) (answer : Except RecordError Unit)
    (hphase : outcome = .cancelled → phase = .sessionCancelled) :
    EndsWith id [finished.cycle.closed phase] outcome
      (.polled false :: calls ++ [.recordedCycle id (finished.cycle.closed phase) answer]) := by
  have hunrecorded := hc.forall_mem (fun _ _ _ => rfl) Call.isRecord_of_isInner
  obtain ⟨before, last, hlast⟩ : ∃ before last, .polled false :: calls = before ++ [last] :=
    ⟨_, _, (List.dropLast_append_getLast (List.cons_ne_nil _ calls)).symm⟩
  rw [hlast] at hunrecorded ⊢
  rw [List.append_assoc]
  refine .inCycle [] _ outcome before last answer (hunrecorded last (by simp)) fun hcancelled => ?_
  rw [Cycle.closed, List.getLast?_concat, hphase hcancelled]

theorem SessionCourse.endsWith
    (hs : SessionCourse config id d remaining used evidence history outcome document calls) :
    EndsWith id history outcome calls := by
  induction hs with
  | bound => exact .unused _ (Or.inl rfl)
  | stopped => exact .unused _ (Or.inr rfl)
  | cancelled hcourse _ answer => exact hcourse.endsWith _ _ answer fun _ => rfl
  | succeeded hcourse _ _ answer => exact hcourse.endsWith _ _ answer nofun
  | failed hcourse _ _ answer => exact hcourse.endsWith _ _ answer nofun
  | @next _ _ _ _ first calls calls' history _ _ hcourse _ hfailure answer hrest ih =>
    cases history with
    | nil =>
      -- The look before the next cycle has stopped the session.
      cases hrest
      refine .betweenCycles [] first.cycle (.polled false :: calls) answer ?_
      rcases hcourse.walks.2 hfailure with hwalk | hwalk <;> simp [hwalk.getLast?]
    | cons cycle rest =>
      have hends := ih.cons (List.cons_ne_nil _ _) first.cycle
        (.polled false :: calls ++ [.recordedCycle id first.cycle answer])
      rwa [List.append_assoc, List.singleton_append] at hends

end Courses

end TextRepair
