import TextRepair.Proofs.Programs
import TextRepair.Session.Run

/-!
# Sessions in related worlds

A session sees nothing of its world but the answers of its collaborators. So two sessions whose
collaborators answer alike in related worlds, and leave them related, come to the same result
(`Collaborators.Alike`, `mirrors_runWith`). If the relation is equality with a property on top, it says
that a session keeps what every one of its calls keeps (`Collaborators.Keeps`, `runWith_keeps`).

`Mirrors R m m'` says this of two programs. There is a rule for each way in which programs are put
together, and a lemma for each part of a session, from the look at the flag up to the whole.
-/

namespace TextRepair

section Mirrors

variable {V W α β : Type} {R : V → W → Prop}

/-- In related worlds the two programs give the same result, and they leave the worlds related. -/
def Mirrors (R : V → W → Prop) (m : StateM V α) (m' : StateM W α) : Prop :=
  ∀ v w, R v w → (m v).1 = (m' w).1 ∧ R (m v).2 (m' w).2

namespace Mirrors

theorem pure (a : α) : Mirrors R (Pure.pure a) (Pure.pure a) :=
  fun _ _ h => ⟨rfl, h⟩

theorem bind {m : StateM V α} {m' : StateM W α} {f : α → StateM V β} {f' : α → StateM W β}
    (hm : Mirrors R m m') (hf : ∀ a, Mirrors R (f a) (f' a)) : Mirrors R (m >>= f) (m' >>= f') := by
  intro v w h
  obtain ⟨hresult, hworld⟩ := hm v w h
  rw [bind_apply, bind_apply, hresult]
  exact hf _ _ _ hworld

theorem get {f : V → StateM V β} {f' : W → StateM W β}
    (hf : ∀ v w, R v w → Mirrors R (f v) (f' w)) :
    Mirrors R (MonadState.get >>= f) (MonadState.get >>= f') :=
  fun v w h => hf v w h v w h

end Mirrors

/-- The two groups answer alike. -/
structure Collaborators.Alike (R : V → W → Prop) (c : Collaborators V) (c' : Collaborators W) :
    Prop where
  diagnose : ∀ d evidence, Mirrors R (c.diagnose d evidence) (c'.diagnose d evidence)
  propose : ∀ context, Mirrors R (c.propose context) (c'.propose context)
  plan : ∀ explanation context,
    Mirrors R (c.plan explanation context) (c'.plan explanation context)
  edit : ∀ plan context, Mirrors R (c.edit plan context) (c'.edit plan context)
  verify : ∀ d command, Mirrors R (c.verify d command) (c'.verify d command)
  isCancelled : Mirrors R c.isCancelled c'.isCancelled
  now : ∀ v w, R v w → c.now v = c'.now w

/-- The two recorders answer alike about the session `id`. -/
structure Recorder.Alike (R : V → W → Prop) (id : String) (r : Recorder V) (r' : Recorder W) :
    Prop where
  recordCycle : ∀ cycle, Mirrors R (r.recordCycle id cycle) (r'.recordCycle id cycle)
  recordResult : ∀ result, result.sessionId = id →
    Mirrors R (r.recordResult result) (r'.recordResult result)

/-! ### The parts of a session -/

section Programs

variable {c : Collaborators V} {c' : Collaborators W} {r : Recorder V} {r' : Recorder W}
  (config : SessionConfig)

theorem mirrors_checkpoint (hc : c.Alike R c') (run : CycleRun) :
    Mirrors R (checkpoint c run) (checkpoint c' run) := by
  refine hc.isCancelled.bind fun stop => ?_
  cases stop <;> exact .pure _

theorem Mirrors.after_checkpoint (hc : c.Alike R c') {run : CycleRun} {stopped : CycleRun → CycleRun}
    {f : CycleRun → StateM V CycleRun} {f' : CycleRun → StateM W CycleRun}
    (hf : ∀ run, Mirrors R (f run) (f' run)) :
    Mirrors R
      (checkpoint c run >>= fun run => if run.isCancelled then Pure.pure (stopped run) else f run)
      (checkpoint c' run >>= fun run => if run.isCancelled then Pure.pure (stopped run) else f' run) := by
  refine (mirrors_checkpoint hc run).bind fun run => ?_
  split
  · exact .pure _
  · exact hf run

theorem mirrors_checkCandidate (hc : c.Alike R c') (context : Context) (candidate : Document)
    (trial : Trial) (run : CycleRun) :
    Mirrors R (checkCandidate config c context candidate trial run)
      (checkCandidate config c' context candidate trial run) := by
  unfold checkCandidate
  refine .after_checkpoint hc fun run => (hc.verify candidate config.command).bind fun answer => ?_
  cases answer with
  | error => exact .pure _
  | ok report =>
    simp only
    split <;> exact .pure _

theorem mirrors_applyCandidate (hc : c.Alike R c') (context : Context) (d : Document) (edit : Edit)
    (trial : Trial) (run : CycleRun) :
    Mirrors R (applyCandidate config c context d edit trial run)
      (applyCandidate config c' context d edit trial run) := by
  unfold applyCandidate
  simp only
  split
  · exact .pure _
  · split
    · exact mirrors_checkCandidate config hc context _ _ _
    · exact .pure _

theorem mirrors_generate (hc : c.Alike R c') (context : Context) (d : Document) (plan : String)
    (trial : Trial) (run : CycleRun) :
    Mirrors R (generate config c context d plan trial run)
      (generate config c' context d plan trial run) := by
  unfold generate
  refine .after_checkpoint hc fun run => (hc.edit plan context).bind fun answer => ?_
  cases answer with
  | error => exact .pure _
  | ok edit => exact mirrors_applyCandidate config hc context d edit _ _

theorem mirrors_tryHypothesis (hc : c.Alike R c') (context : Context) (d : Document)
    (h : Hypothesis) (run : CycleRun) :
    Mirrors R (tryHypothesis config c context d h run) (tryHypothesis config c' context d h run) := by
  unfold tryHypothesis
  refine .after_checkpoint hc fun run => (hc.plan h.explanation context).bind fun answer => ?_
  cases answer with
  | error => exact .pure _
  | ok plan => exact mirrors_generate config hc context d plan _ _

theorem mirrors_tryAll (hc : c.Alike R c') (context : Context) (d : Document) (rounds : Nat)
    (run : CycleRun) :
    Mirrors R (tryAll config c context d rounds run) (tryAll config c' context d rounds run) := by
  induction rounds generalizing run with
  | zero =>
    unfold tryAll
    refine .after_checkpoint hc fun run => ?_
    split <;> exact .pure _
  | succ rounds ih =>
    unfold tryAll
    refine .after_checkpoint hc fun run => ?_
    split
    · exact .pure _
    · exact .pure _
    · refine (mirrors_tryHypothesis config hc context d _ _).bind fun run => ?_
      split
      · exact .pure _
      · exact ih run

theorem mirrors_tryProposals (hc : c.Alike R c') (context : Context) (d : Document)
    (proposals : List String) (run : CycleRun) :
    Mirrors R (tryProposals config c context d proposals run)
      (tryProposals config c' context d proposals run) := by
  unfold tryProposals
  split
  · exact .pure _
  · split
    · exact .pure _
    · exact (mirrors_tryAll config hc context d _ _).bind fun run => .pure _

theorem mirrors_runCycle (hc : c.Alike R c') (index : Nat) (d : Document) (evidence : List String) :
    Mirrors R (runCycle config c index d evidence) (runCycle config c' index d evidence) := by
  unfold runCycle
  refine .get fun v w h => ?_
  rw [hc.now v w h]
  refine (hc.diagnose d evidence).bind fun answer => ?_
  cases answer with
  | error => exact .pure _
  | ok found =>
    cases found with
    | none => exact .pure _
    | some context =>
      refine .after_checkpoint hc fun run => (hc.propose context).bind fun answer => ?_
      cases answer with
      | error => exact .pure _
      | ok proposals => exact mirrors_tryProposals config hc context d proposals _

theorem mirrors_recordOrTell {write : StateM V (Except RecordError Unit)}
    {write' : StateM W (Except RecordError Unit)} (hw : Mirrors R write write') :
    Mirrors R (recordOrTell write) (recordOrTell write') := by
  refine hw.bind fun answer => ?_
  cases answer <;> exact .pure _

theorem mirrors_runCycles (hc : c.Alike R c') {id : String} (hr : r.Alike R id r') (remaining : Nat)
    (session : SessionRun) :
    Mirrors R (runCycles config c r id remaining session)
      (runCycles config c' r' id remaining session) := by
  induction remaining generalizing session with
  | zero => exact .pure _
  | succ remaining ih =>
    unfold runCycles
    refine hc.isCancelled.bind fun stop => ?_
    cases stop with
    | true => exact .pure _
    | false =>
      refine (mirrors_runCycle config hc _ _ _).bind fun run => ?_
      generalize run.ending (remaining == 0) = ending
      obtain ⟨terminal, outcome⟩ := ending
      refine (mirrors_recordOrTell (hr.recordCycle _)).bind fun failures => ?_
      cases terminal with
      | some => exact .pure _
      | none => exact ih _

theorem mirrors_runWith (hc : c.Alike R c') {id : String} (hr : r.Alike R id r') (d : Document) :
    Mirrors R (runWith config c r id d) (runWith config c' r' id d) := by
  unfold runWith
  refine .get fun v w h => (mirrors_runCycles config hc hr _ _).bind fun session => ?_
  refine .get fun v' w' h' => ?_
  rw [hc.now v w h, hc.now v' w' h']
  exact (mirrors_recordOrTell (hr.recordResult _ rfl)).bind fun failures => .pure _

end Programs

end Mirrors

/-! ### What every call keeps -/

section Keeps

variable {W : Type} {I : W → Prop}

/-- Every call to these keeps the property. -/
structure Collaborators.Keeps (I : W → Prop) (c : Collaborators W) : Prop where
  diagnose : ∀ d evidence w, I w → I (c.diagnose d evidence w).2
  propose : ∀ context w, I w → I (c.propose context w).2
  plan : ∀ explanation context w, I w → I (c.plan explanation context w).2
  edit : ∀ plan context w, I w → I (c.edit plan context w).2
  verify : ∀ d command w, I w → I (c.verify d command w).2
  isCancelled : ∀ w, I w → I (c.isCancelled w).2

/-- Every record of the session `id` keeps the property. -/
structure Recorder.Keeps (I : W → Prop) (id : String) (r : Recorder W) : Prop where
  recordCycle : ∀ cycle w, I w → I (r.recordCycle id cycle w).2
  recordResult : ∀ result w, result.sessionId = id → I w → I (r.recordResult result w).2

/-- The same world, with the property. -/
def Shared (I : W → Prop) (v w : W) : Prop :=
  v = w ∧ I w

theorem Mirrors.shared {α : Type} {m : StateM W α} (h : ∀ w, I w → I (m w).2) :
    Mirrors (Shared I) m m := by
  rintro v w ⟨rfl, hv⟩
  exact ⟨rfl, rfl, h v hv⟩

theorem runWith_keeps {c : Collaborators W} {r : Recorder W} {id : String} (hc : c.Keeps I)
    (hr : r.Keeps I id) (config : SessionConfig) (d : Document) {w : W} (hw : I w) :
    I (runWith config c r id d w).2 := by
  have hcalls : c.Alike (Shared I) c :=
    { diagnose := fun d evidence => .shared (hc.diagnose d evidence)
      propose := fun context => .shared (hc.propose context)
      plan := fun explanation context => .shared (hc.plan explanation context)
      edit := fun plan context => .shared (hc.edit plan context)
      verify := fun d command => .shared (hc.verify d command)
      isCancelled := .shared hc.isCancelled
      now := fun v w h => by rw [h.1] }
  have hrecords : r.Alike (Shared I) id r :=
    { recordCycle := fun cycle => .shared (hr.recordCycle cycle)
      recordResult := fun result hid => .shared fun w => hr.recordResult result w hid }
  obtain ⟨-, -, hkept⟩ := mirrors_runWith config hcalls hrecords d w w ⟨rfl, hw⟩
  exact hkept

end Keeps

end TextRepair
