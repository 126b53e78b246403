import TextRepair.Session.Run

/-!
# The calls of a session

`sessionCalls` lists the calls of a session in their order, each with its answer, and the looks at the
flag that asks it to stop among them: the session runs with collaborators that note every call
(`Collaborators.observed`, `Recorder.observed`) in a list that it cannot see.

`Observes m' m P` says of a part of a session, with and without such notes (`m'` and `m`), that the two
agree in their results and their worlds, and that `P` holds of the result and of the calls that were
noted. The rules below carry it through a program: `Observes.pure`, `Observes.bind`, and one for each
call (`Observes.call`).
-/

namespace TextRepair

/-- A call with its answer. -/
inductive Call where
  | diagnosed (d : Document) (evidence : List String) (answer : Answer (Option Context))
  | proposed (context : Context) (answer : Answer (List String))
  | planned (explanation : String) (context : Context) (answer : Answer String)
  | edited (plan : String) (context : Context) (answer : Answer Edit)
  | verified (d : Document) (command : List String) (answer : Answer CheckReport)
  | recordedCycle (sessionId : String) (cycle : Cycle) (answer : Except RecordError Unit)
  | recordedResult (result : SessionResult) (answer : Except RecordError Unit)
  /-- A look at the flag that asks the session to stop. -/
  | polled (stop : Bool)

/-- Whether the call asks those who diagnose, advise and check. -/
def Call.isRequest : Call → Bool
  | diagnosed .. | proposed .. | planned .. | edited .. | verified .. => true
  | recordedCycle .. | recordedResult .. | polled .. => false

section Observation

variable {W α β : Type}

/-- A call that notes its answer behind the earlier calls. -/
def noted (call : StateM W α) (entry : α → Call) : StateM (W × List Call) α := fun s =>
  ((call s.1).1, (call s.1).2, s.2 ++ [entry (call s.1).1])

/-- The same collaborators, with every call noted. -/
def Collaborators.observed (c : Collaborators W) : Collaborators (W × List Call) where
  diagnose d evidence := noted (c.diagnose d evidence) (.diagnosed d evidence)
  propose context := noted (c.propose context) (.proposed context)
  plan explanation context := noted (c.plan explanation context) (.planned explanation context)
  edit plan context := noted (c.edit plan context) (.edited plan context)
  verify d command := noted (c.verify d command) (.verified d command)
  isCancelled := noted c.isCancelled .polled
  now s := c.now s.1

@[simp] theorem Collaborators.observed_now (c : Collaborators W) (w : W) (calls : List Call) :
    c.observed.now (w, calls) = c.now w := rfl

/-- The same recorder, with every call noted. -/
def Recorder.observed (r : Recorder W) : Recorder (W × List Call) where
  recordCycle id cycle := noted (r.recordCycle id cycle) (.recordedCycle id cycle)
  recordResult result := noted (r.recordResult result) (.recordedResult result)

/-- The calls of a session in their order. -/
def sessionCalls (config : SessionConfig) (c : Collaborators W) (r : Recorder W) (id : String)
    (d : Document) (w : W) : List Call :=
  (runWith config c.observed r.observed id d (w, [])).2.2

/-! ### Programs with and without notes -/

/-- `m'` does what `m` does, and `P` holds of its result and of the calls that it notes. -/
def Observes (m' : StateM (W × List Call) α) (m : StateM W α) (P : α → List Call → Prop) : Prop :=
  ∀ w calls, ∃ new, m' (w, calls) = ((m w).1, (m w).2, calls ++ new) ∧ P (m w).1 new

namespace Observes

theorem pure {P : α → List Call → Prop} {a : α} (h : P a []) :
    Observes (W := W) (Pure.pure a) (Pure.pure a) P := by
  intro w calls
  refine ⟨[], ?_, h⟩
  rw [List.append_nil]
  rfl

theorem bind {m' : StateM (W × List Call) α} {m : StateM W α} {P : α → List Call → Prop}
    {f' : α → StateM (W × List Call) β} {f : α → StateM W β} {Q : β → List Call → Prop}
    (hm : Observes m' m P)
    (hf : ∀ a new, P a new → Observes (f' a) (f a) fun b more => Q b (new ++ more)) :
    Observes (m' >>= f') (m >>= f) Q := by
  intro w calls
  obtain ⟨new, hrun, hnew⟩ := hm w calls
  obtain ⟨more, hrun', hmore⟩ := hf _ _ hnew (m w).2 (calls ++ new)
  refine ⟨new ++ more, ?_, hmore⟩
  have hstep : (m' >>= f') (w, calls) = f' (m' (w, calls)).1 (m' (w, calls)).2 := rfl
  rw [hstep, hrun, hrun', List.append_assoc]
  rfl

theorem mono {m' : StateM (W × List Call) α} {m : StateM W α} {P Q : α → List Call → Prop}
    (hm : Observes m' m P) (h : ∀ a new, P a new → Q a new) : Observes m' m Q := by
  intro w calls
  obtain ⟨new, hrun, hnew⟩ := hm w calls
  exact ⟨new, hrun, h _ _ hnew⟩

theorem call {m : StateM W α} {entry : α → Call} {f' : α → StateM (W × List Call) β}
    {f : α → StateM W β} {Q : β → List Call → Prop}
    (hf : ∀ a, Observes (f' a) (f a) fun b more => Q b (entry a :: more)) :
    Observes (noted m entry >>= f') (m >>= f) Q := by
  refine Observes.bind (P := fun a new => new = [entry a]) (fun w calls => ⟨_, rfl, rfl⟩) ?_
  rintro a _ rfl
  exact hf a

theorem get {f' : W × List Call → StateM (W × List Call) β} {f : W → StateM W β}
    {Q : β → List Call → Prop} (hf : ∀ w calls, Observes (f' (w, calls)) (f w) Q) :
    Observes (MonadState.get >>= f') (MonadState.get >>= f) Q :=
  fun w calls => hf w calls w calls

end Observes

end Observation

end TextRepair
