import TextRepair.Proofs.Session.ByCycle
import TextRepair.Proofs.Session.Cycles

/-!
# The records of a cycle agree

A cycle keeps two records of the same facts: the hypotheses of its ledger and the list of its trials.
Main statement, `session_agrees`: in every cycle of a session the two agree (`Cycle.Agrees`).

The argument follows the courses. A trial that has ended tells how (`Trial.IsClosed`), and so the
hypothesis settled by it tells the same (`Trial.IsClosed.agrees`). The rounds of a cycle put the trials
against the hypotheses from the first one on (`Tally`): all but the last tried one are rejected, the
last one is as the cycle stands, and the others are untouched.
-/

namespace TextRepair

/-- The entry of a ledger and the record of its trial tell the same. -/
structure Hypothesis.AgreesWith (h : Hypothesis) (trial : Trial) : Prop where
  id_eq : trial.hypothesisId = h.id
  explanation_eq : trial.explanation = h.explanation
  rejected_iff : h.status = .rejected ↔ trial.rejection.isSome = true
  rejection_eq : h.rejection = trial.rejection
  accepted_iff : h.status = .accepted ↔ trial.verdict = some .fixed
  applied : trial.applied = true → ∃ edit, trial.edit = some edit ∧ h.hunks = edit.hunks
  unapplied : trial.applied = false → h.hunks = []

/-- The hypotheses and the trials of a cycle with these calls tell the same. -/
structure Cycle.Agrees (config : SessionConfig) (cycle : Cycle) (calls : List Call) : Prop where
  /-- The hypotheses stand in the order of their proposal. -/
  proposed : cycle.hypotheses = [] ∨ ∃ context proposals,
    .proposed context (.ok proposals) ∈ calls ∧
      cycle.hypotheses.map Hypothesis.explanation = Ledger.usable (config.limit proposals)
  ids : cycle.hypotheses.map Hypothesis.id = List.range' 1 cycle.hypotheses.length
  /-- The trials stand in the order of the hypotheses. -/
  length_le : cycle.trials.length ≤ cycle.hypotheses.length
  agrees : ∀ (i : Nat) h t, cycle.hypotheses[i]? = some h → cycle.trials[i]? = some t →
    Hypothesis.AgreesWith h t
  only : ∀ (i j : Nat) h t, cycle.hypotheses[i]? = some h → cycle.trials[j]? = some t →
    Trial.hypothesisId t = Hypothesis.id h → j = i
  accepted : ∀ (i : Nat) h, cycle.hypotheses[i]? = some h → h.status = .accepted →
    i + 1 = cycle.trials.length ∧ cycle.outcome = .succeeded
  /-- Only a stop leaves a hypothesis that is being worked on. -/
  unfinished : ∀ (i : Nat) h, cycle.hypotheses[i]? = some h → h.status.isActive = true →
    i + 1 = cycle.trials.length ∧ .polled true ∈ calls ∧
      cycle.outcome = .aborted CallError.cancelled.message
  untried : ∀ (i : Nat) h, cycle.hypotheses[i]? = some h → cycle.trials.length ≤ i → h.IsFresh
  active : cycle.active = lastIndex cycle.trials.length
  exhausted_iff : cycle.outcome = .exhausted ↔ .polled true ∉ calls ∧ cycle.hypotheses ≠ [] ∧
    ∀ h ∈ cycle.hypotheses, h.status = .rejected
  applySteps : cycle.applySteps = cycle.trials.countP (·.edit.isSome)

/-! ### The standing of a cycle and the status of its last tried hypothesis -/

namespace Standing

variable {standing : Standing} {applied : Bool}

theorem status_eq_rejected_iff : standing.status applied = .rejected ↔ standing = .going := by
  cases standing <;> cases applied <;> simp [status]

theorem status_eq_accepted_iff :
    standing.status applied = .accepted ↔ ∃ d, standing = .mended d := by
  cases standing <;> cases applied <;> simp [status]

theorem isActive_status_iff : (standing.status applied).isActive = true ↔ standing = .stopped := by
  cases standing <;> cases applied <;> simp [status, Status.isActive]

theorem outcome_eq_exhausted_iff : standing.outcome = .exhausted ↔ standing = .going := by
  cases standing <;> simp [outcome]

end Standing

/-! ### Trials that have ended -/

/-- A trial of `h` that has come to no result yet. -/
structure Trial.IsOpen (h : Hypothesis) (trial : Trial) : Prop where
  id_eq : trial.hypothesisId = h.id
  explanation_eq : trial.explanation = h.explanation
  verdict : trial.verdict = none
  rejection : trial.rejection = none

/-- A trial of `h` that has ended in this standing after these calls. -/
structure Trial.IsClosed (h : Hypothesis) (standing : Standing) (calls : List Call) (trial : Trial) :
    Prop where
  id_eq : trial.hypothesisId = h.id
  explanation_eq : trial.explanation = h.explanation
  rejected_iff : trial.rejection.isSome = true ↔ standing = .going
  fixed_iff : trial.verdict = some .fixed ↔ ∃ d, standing = .mended d
  edited : trial.applied = true → trial.edit.isSome = true
  polled_iff : .polled true ∈ calls ↔ standing = .stopped

namespace Trial

variable {h : Hypothesis} {trial : Trial} {standing : Standing} {calls : List Call}

theorem IsOpen.stopped (ho : trial.IsOpen h) (hedited : trial.applied = true → trial.edit.isSome = true) :
    trial.IsClosed h .stopped [.polled true] :=
  ⟨ho.id_eq, ho.explanation_eq, by simp [ho.rejection], by simp [ho.verdict], hedited, by simp⟩

theorem IsOpen.rejectedFor (ho : trial.IsOpen h)
    (hedited : trial.applied = true → trial.edit.isSome = true) (reason : String)
    (hcalls : .polled true ∉ calls) : (trial.rejectedFor reason).IsClosed h .going calls := by
  refine ⟨ho.id_eq, ho.explanation_eq, ?_, ?_, hedited, ?_⟩
  · simp [Trial.rejectedFor]
  · simp [Trial.rejectedFor, ho.verdict]
  · simp [hcalls]

theorem IsClosed.of_calls {calls' : List Call} (ht : trial.IsClosed h standing calls)
    (hcalls : .polled true ∈ calls' ↔ .polled true ∈ calls) : trial.IsClosed h standing calls' :=
  { ht with polled_iff := hcalls.trans ht.polled_iff }

theorem IsClosed.agrees (ht : trial.IsClosed h standing calls) :
    (h.settled trial standing).AgreesWith trial := by
  refine ⟨ht.id_eq, ht.explanation_eq, ?_, rfl, ?_, ?_, ?_⟩
  · rw [ht.rejected_iff]
    exact Standing.status_eq_rejected_iff
  · rw [ht.fixed_iff]
    exact Standing.status_eq_accepted_iff
  · intro happlied
    obtain ⟨edit, hedit⟩ := Option.isSome_iff_exists.mp (ht.edited happlied)
    refine ⟨edit, hedit, ?_⟩
    simp [Hypothesis.settled, Trial.hunks, happlied, hedit]
  · intro hunapplied
    simp [Hypothesis.settled, Trial.hunks, hunapplied]

end Trial

section Courses

variable {config : SessionConfig} {context : Context} {d candidate : Document} {edit : Edit}
  {plan : String} {h : Hypothesis} {trial trial' : Trial} {standing : Standing} {phases : List Phase}
  {calls : List Call}

theorem CheckCourse.isClosed (ho : trial.IsOpen h) (hedit : trial.edit.isSome = true)
    (hc : CheckCourse config context candidate trial trial' standing phases calls) :
    trial'.IsClosed h standing calls := by
  have hedited : trial.applied = true → trial.edit.isSome = true := fun _ => hedit
  cases hc with
  | stopped => exact ho.stopped hedited
  | failed e => exact ho.rejectedFor hedited _ (by simp)
  | fixed report hjudged =>
    refine ⟨ho.id_eq, ho.explanation_eq, ?_, ?_, hedited, by simp⟩
    · simp [Trial.checked, ho.rejection]
    · simp [Trial.checked]
  | turnedDown report verdict hjudged hunfixed =>
    refine ⟨ho.id_eq, ho.explanation_eq, ?_, ?_, hedited, by simp⟩
    · simp [Trial.rejectedFor]
    · simpa [Trial.rejectedFor, Trial.checked] using hunfixed

theorem EditCourse.isClosed (ho : trial.IsOpen h) (hedit : trial.edit.isSome = true)
    (hc : EditCourse config context d edit trial trial' standing phases calls) :
    trial'.IsClosed h standing calls := by
  have hedited : trial.applied = true → trial.edit.isSome = true := fun _ => hedit
  cases hc with
  | malformed e hresult => exact ho.rejectedFor hedited _ List.not_mem_nil
  | unplaced out hresult hfailure =>
    have hreported : Trial.IsOpen h { trial with reports := out.reports } :=
      ⟨ho.id_eq, ho.explanation_eq, ho.verdict, ho.rejection⟩
    exact hreported.rejectedFor hedited _ List.not_mem_nil
  | applied out hresult hsuccess hcheck =>
    have happlied : Trial.IsOpen h { trial with reports := out.reports, applied := true } :=
      ⟨ho.id_eq, ho.explanation_eq, ho.verdict, ho.rejection⟩
    exact hcheck.isClosed happlied hedit

theorem PlanCourse.isClosed (ho : trial.IsOpen h) (happlied : trial.applied = false)
    (hc : PlanCourse config context d plan trial trial' standing phases calls) :
    trial'.IsClosed h standing calls := by
  have hedited : trial.applied = true → trial.edit.isSome = true := by simp [happlied]
  cases hc with
  | stopped => exact ho.stopped hedited
  | failed e => exact ho.rejectedFor hedited _ (by simp)
  | edited edit hedit =>
    have hopen : Trial.IsOpen h { trial with edit := some edit } :=
      ⟨ho.id_eq, ho.explanation_eq, ho.verdict, ho.rejection⟩
    exact (hedit.isClosed hopen rfl).of_calls (by simp)

theorem TrialCourse.isClosed (hc : TrialCourse config context d h trial standing phases calls) :
    trial.IsClosed h standing calls := by
  have hopen : (Trial.ofHypothesis h).IsOpen h := ⟨rfl, rfl, rfl, rfl⟩
  have hunapplied : (Trial.ofHypothesis h).applied = true → (Trial.ofHypothesis h).edit.isSome = true :=
    nofun
  cases hc with
  | stopped => exact hopen.stopped hunapplied
  | failed e => exact hopen.rejectedFor hunapplied _ (by simp)
  | planned plan hplan =>
    have hplanned : Trial.IsOpen h { Trial.ofHypothesis h with plan := some plan } :=
      ⟨rfl, rfl, rfl, rfl⟩
    exact (hplan.isClosed hplanned rfl).of_calls (by simp)

/-! ### Edits and their applications -/

theorem CheckCourse.applying
    (hc : CheckCourse config context candidate trial trial' standing phases calls) :
    trial'.edit = trial.edit ∧ phases.countP (· = .applying) = 0 := by
  cases hc with
  | stopped => exact ⟨rfl, rfl⟩
  | failed => exact ⟨rfl, rfl⟩
  | fixed => exact ⟨rfl, rfl⟩
  | turnedDown => exact ⟨rfl, rfl⟩

theorem EditCourse.applying (hc : EditCourse config context d edit trial trial' standing phases calls) :
    trial'.edit = trial.edit ∧ phases.countP (· = .applying) = 1 := by
  cases hc with
  | malformed => exact ⟨rfl, rfl⟩
  | unplaced => exact ⟨rfl, rfl⟩
  | applied out hresult hsuccess hcheck =>
    obtain ⟨hedit, hcount⟩ := hcheck.applying
    refine ⟨hedit, ?_⟩
    rw [List.countP_cons, hcount]
    rfl

theorem PlanCourse.applying (hedit : trial.edit = none)
    (hc : PlanCourse config context d plan trial trial' standing phases calls) :
    phases.countP (· = .applying) = [trial'].countP (·.edit.isSome) := by
  cases hc with
  | stopped => simp [hedit]
  | failed => simp [Trial.rejectedFor, hedit]
  | edited edit hcourse =>
    obtain ⟨hedited, hcount⟩ := hcourse.applying
    rw [List.countP_cons, hcount, List.countP_singleton, hedited]
    rfl

theorem TrialCourse.applying (hc : TrialCourse config context d h trial standing phases calls) :
    phases.countP (· = .applying) = [trial].countP (·.edit.isSome) := by
  cases hc with
  | stopped => rfl
  | failed => rfl
  | planned plan hplan =>
    have hcount := hplan.applying rfl
    rw [List.countP_cons, hcount]
    rfl

end Courses

/-! ### Rounds -/

/-- The hypotheses of a cycle against its trials, where the cycle stands so after the last one. -/
structure Tally (hypotheses : List Hypothesis) (trials : List Trial) (standing : Standing) :
    Prop where
  length_le : trials.length ≤ hypotheses.length
  agrees : ∀ (i : Nat) h t, hypotheses[i]? = some h → trials[i]? = some t →
    Hypothesis.AgreesWith h t
  tried : ∀ (i : Nat) h, hypotheses[i]? = some h → i < trials.length → h.status = .rejected ∨
    i + 1 = trials.length ∧ ∃ applied, h.status = standing.status applied
  untried : ∀ (i : Nat) h, hypotheses[i]? = some h → trials.length ≤ i → h.IsFresh

namespace Tally

variable {hypotheses : List Hypothesis} {trials : List Trial} {standing : Standing} {h : Hypothesis}
  {trial : Trial} {calls : List Call}

theorem of_fresh (hfresh : ∀ h ∈ hypotheses, h.IsFresh) (standing : Standing) :
    Tally hypotheses [] standing where
  length_le := Nat.zero_le _
  agrees i h t _ ht := by simp at ht
  tried i h _ hi := by simp at hi
  untried i h hh _ := hfresh h (List.mem_of_getElem? hh)

theorem cons (ht : Tally hypotheses trials standing) (hclosed : trial.IsClosed h .going calls) :
    Tally (h.settled trial .going :: hypotheses) (trial :: trials) standing where
  length_le := Nat.succ_le_succ ht.length_le
  agrees i x t hx htrial := by
    cases i with
    | zero =>
      cases hx
      cases htrial
      exact hclosed.agrees
    | succ i => exact ht.agrees i x t hx htrial
  tried i x hx hi := by
    cases i with
    | zero =>
      cases hx
      exact Or.inl rfl
    | succ i =>
      rw [List.length_cons] at hi ⊢
      rcases ht.tried i x hx (Nat.lt_of_succ_lt_succ hi) with hrejected | ⟨hlast, hstatus⟩
      · exact Or.inl hrejected
      · exact Or.inr ⟨congrArg Nat.succ hlast, hstatus⟩
  untried i x hx hi := by
    cases i with
    | zero => simp at hi
    | succ i => exact ht.untried i x hx (Nat.le_of_succ_le_succ hi)

theorem single (hfresh : ∀ h ∈ hypotheses, h.IsFresh) (hclosed : trial.IsClosed h standing calls) :
    Tally (h.settled trial standing :: hypotheses) [trial] standing where
  length_le := Nat.succ_le_succ (Nat.zero_le _)
  agrees i x t hx htrial := by
    cases i with
    | zero =>
      cases hx
      cases htrial
      exact hclosed.agrees
    | succ i => simp at htrial
  tried i x hx hi := by
    obtain rfl : i = 0 := by simpa using hi
    cases hx
    exact Or.inr ⟨rfl, trial.applied, rfl⟩
  untried i x hx hi := by
    cases i with
    | zero => simp at hi
    | succ i => exact hfresh x (List.mem_of_getElem? hx)

theorem eq_of_id_eq (ht : Tally hypotheses trials standing)
    (hdistinct : (hypotheses.map Hypothesis.id).Nodup) {i j : Nat} (hh : hypotheses[i]? = some h)
    (htrial : trials[j]? = some trial) (hid : trial.hypothesisId = h.id) : j = i := by
  have hj : j < hypotheses.length := by
    have hlength := (List.getElem?_eq_some_iff.mp htrial).choose
    have hle := ht.length_le
    omega
  have hother : hypotheses[j]? = some hypotheses[j] := List.getElem?_eq_getElem hj
  have hsame : trial.hypothesisId = hypotheses[j].id := (ht.agrees j _ trial hother htrial).id_eq
  apply (List.getElem?_inj (by rwa [List.length_map]) hdistinct).mp
  rw [List.getElem?_map, List.getElem?_map, hh, hother, Option.map_some, Option.map_some, ← hsame, hid]

theorem accepted (ht : Tally hypotheses trials standing) {i : Nat} (hh : hypotheses[i]? = some h)
    (haccepted : h.status = .accepted) : i + 1 = trials.length ∧ ∃ d, standing = .mended d := by
  by_cases hi : i < trials.length
  · rcases ht.tried i h hh hi with hrejected | ⟨hlast, applied, hstatus⟩
    · rw [hrejected] at haccepted
      cases haccepted
    · rw [hstatus] at haccepted
      exact ⟨hlast, Standing.status_eq_accepted_iff.mp haccepted⟩
  · have hfresh := ht.untried i h hh (Nat.le_of_not_lt hi)
    rw [hfresh.status] at haccepted
    cases haccepted

theorem unfinished (ht : Tally hypotheses trials standing) {i : Nat} (hh : hypotheses[i]? = some h)
    (hactive : h.status.isActive = true) : i + 1 = trials.length ∧ standing = .stopped := by
  by_cases hi : i < trials.length
  · rcases ht.tried i h hh hi with hrejected | ⟨hlast, applied, hstatus⟩
    · rw [hrejected] at hactive
      cases hactive
    · rw [hstatus] at hactive
      exact ⟨hlast, Standing.isActive_status_iff.mp hactive⟩
  · have hfresh := ht.untried i h hh (Nat.le_of_not_lt hi)
    rw [hfresh.status] at hactive
    cases hactive

end Tally

section Courses

variable {config : SessionConfig} {context : Context} {d : Document} {standing : Standing}
  {phases : List Phase} {calls : List Call} {pending after : List Hypothesis} {trials : List Trial}

theorem Rounds.tally (hr : Rounds config context d pending trials standing phases calls after)
    (hfresh : ∀ h ∈ pending, h.IsFresh) : Tally after trials standing := by
  induction hr with
  | exhausted => exact .of_fresh hfresh _
  | stopped pending => exact .of_fresh hfresh _
  | rejected hfirst _ ih =>
    have hrest := ih fun x hx => hfresh x (List.mem_cons_of_mem _ hx)
    exact hrest.cons hfirst.isClosed
  | ended hlast _ => exact .single (fun x hx => hfresh x (List.mem_cons_of_mem _ hx)) hlast.isClosed

theorem Rounds.map_eq {α : Type} {f : Hypothesis → α}
    (hr : Rounds config context d pending trials standing phases calls after)
    (hf : ∀ h trial standing, f (Hypothesis.settled h trial standing) = f h) :
    after.map f = pending.map f := by
  induction hr with
  | exhausted => rfl
  | stopped => rfl
  | rejected _ _ ih => rw [List.map_cons, List.map_cons, hf, ih]
  | ended => rw [List.map_cons, List.map_cons, hf]

theorem Rounds.polled_iff (hr : Rounds config context d pending trials standing phases calls after) :
    .polled true ∈ calls ↔ standing = .stopped := by
  induction hr with
  | exhausted => simp
  | stopped => simp
  | rejected hfirst _ ih =>
    have hgoing := hfirst.isClosed.polled_iff
    simp [hgoing, ih]
  | ended hlast _ =>
    have hstopped := hlast.isClosed.polled_iff
    simp [hstopped]

theorem Rounds.accepted_of_mended
    (hr : Rounds config context d pending trials standing phases calls after) {document : Document}
    (hmended : standing = .mended document) : ∃ h ∈ after, h.status = .accepted := by
  induction hr with
  | exhausted => cases hmended
  | stopped => cases hmended
  | rejected _ _ ih =>
    obtain ⟨h, hh, haccepted⟩ := ih hmended
    exact ⟨h, List.mem_cons_of_mem _ hh, haccepted⟩
  | ended =>
    subst hmended
    exact ⟨_, List.mem_cons_self, rfl⟩

theorem Rounds.going_iff (hr : Rounds config context d pending trials standing phases calls after)
    (hne : pending ≠ []) :
    standing = .going ↔
      .polled true ∉ calls ∧ after ≠ [] ∧ ∀ h ∈ after, h.status = .rejected := by
  rw [hr.polled_iff]
  constructor
  · intro hgoing
    exact ⟨by simp [hgoing], hr.ne_nil hne, hr.rejected_of_going hgoing⟩
  · rintro ⟨hstopped, -, hrejected⟩
    cases hstanding : standing with
    | going => rfl
    | stopped => exact absurd hstanding hstopped
    | mended document =>
      obtain ⟨h, hh, haccepted⟩ := hr.accepted_of_mended hstanding
      rw [hrejected h hh] at haccepted
      cases haccepted

theorem Rounds.applying (hr : Rounds config context d pending trials standing phases calls after) :
    phases.countP (· = .applying) = trials.countP (·.edit.isSome) := by
  induction hr with
  | exhausted => rfl
  | stopped => rfl
  | @rejected _ _ _ trial trials _ _ _ _ _ hfirst _ ih =>
    have htrials : trial :: trials = [trial] ++ trials := rfl
    rw [List.countP_append, List.countP_cons, hfirst.applying, ih, htrials, List.countP_append]
    rfl
  | ended hlast _ =>
    rw [List.countP_cons, hlast.applying]
    rfl

end Courses

/-! ### Cycles and sessions -/

namespace Cycle

variable {config : SessionConfig} {cycle : Cycle} {calls : List Call}

theorem Agrees.of_no_hypotheses (hhypotheses : cycle.hypotheses = []) (htrials : cycle.trials = [])
    (hactive : cycle.active = none) (happly : cycle.applySteps = 0)
    (houtcome : cycle.outcome ≠ .exhausted) (calls : List Call) : cycle.Agrees config calls where
  proposed := Or.inl hhypotheses
  ids := by rw [hhypotheses]; rfl
  length_le := by rw [htrials]; exact Nat.zero_le _
  agrees i h t hh := by simp [hhypotheses] at hh
  only i j h t hh := by simp [hhypotheses] at hh
  accepted i h hh := by simp [hhypotheses] at hh
  unfinished i h hh := by simp [hhypotheses] at hh
  untried i h hh := by simp [hhypotheses] at hh
  active := by rw [hactive, htrials]; rfl
  exhausted_iff := by simp [houtcome, hhypotheses]
  applySteps := by rw [happly, htrials]; rfl

theorem Agrees.of_abortedAtOnce (hhypotheses : cycle.hypotheses = []) (htrials : cycle.trials = [])
    (hactive : cycle.active = none) (reason : String) (calls : List Call) :
    (cycle.abortedAtOnce reason).Agrees config calls := by
  refine .of_no_hypotheses ?_ ?_ ?_ rfl ?_ calls
  · exact hhypotheses
  · exact htrials
  · exact hactive
  · simp [Cycle.abortedAtOnce]

theorem Agrees.of_rounds {context : Context} {d : Document} {proposals : List String}
    {ledger : Ledger} {added : Added} {standing : Standing} {phases : List Phase}
    {during : List Call}
    (hlisted : Ledger.empty.add (config.limit proposals) = .ok (ledger, added))
    (hne : ledger.hypotheses ≠ [])
    (hrounds : Rounds config context d ledger.hypotheses cycle.trials standing phases during
      cycle.hypotheses)
    (hactive : cycle.active = lastIndex cycle.trials.length)
    (houtcome : cycle.outcome = standing.outcome)
    (happly : cycle.applySteps = phases.countP (· = .applying))
    (hproposed : .proposed context (.ok proposals) ∈ calls)
    (hpolled : .polled true ∈ calls ↔ .polled true ∈ during) : cycle.Agrees config calls := by
  have hregistered := Ledger.registered_of_add hlisted
  have htally := hrounds.tally hregistered.fresh
  have hids : cycle.hypotheses.map Hypothesis.id = List.range' 1 cycle.hypotheses.length := by
    rw [hrounds.map_eq fun _ _ _ => rfl, hrounds.length_eq]
    exact hregistered.ids
  refine ⟨Or.inr ⟨context, proposals, hproposed, ?_⟩, hids, htally.length_le, htally.agrees, ?_, ?_, ?_,
    htally.untried, hactive, ?_, happly.trans hrounds.applying⟩
  · rw [hrounds.map_eq fun _ _ _ => rfl]
    exact hregistered.explanations
  · have hdistinct : (cycle.hypotheses.map Hypothesis.id).Nodup := by
      rw [hids]
      exact List.nodup_range'
    exact fun i j h t hh ht hid => htally.eq_of_id_eq hdistinct hh ht hid
  · intro i h hh haccepted
    obtain ⟨hlast, document, rfl⟩ := htally.accepted hh haccepted
    exact ⟨hlast, houtcome⟩
  · intro i h hh hactive
    obtain ⟨hlast, rfl⟩ := htally.unfinished hh hactive
    exact ⟨hlast, hpolled.mpr (hrounds.polled_iff.mpr rfl), houtcome⟩
  · rw [houtcome, Standing.outcome_eq_exhausted_iff, hpolled]
    exact hrounds.going_iff hne

theorem Agrees.closed (ha : cycle.Agrees config calls) {phase : Phase} (hphase : phase ≠ .applying) :
    (cycle.closed phase).Agrees config calls := by
  have happly : (cycle.closed phase).applySteps = cycle.applySteps := by
    simp [Cycle.applySteps, Cycle.closed, hphase]
  exact { ha with applySteps := happly.trans ha.applySteps }

end Cycle

section Courses

variable {config : SessionConfig} {d : Document} {calls : List Call} {index used remaining : Nat}
  {startedAt : Timestamp} {evidence : List String} {id : String} {finished : Finished}
  {history : List Cycle} {outcome : SessionOutcome} {document : Document}

theorem CycleCourse.agrees (hc : CycleCourse config index startedAt d evidence finished calls) :
    finished.cycle.Agrees config (.polled false :: calls) := by
  cases hc with
  | undiagnosed => exact .of_abortedAtOnce rfl rfl rfl _ _
  | clean =>
    refine .of_no_hypotheses rfl rfl rfl rfl ?_ _
    exact nofun
  | stopped => exact .of_abortedAtOnce rfl rfl rfl _ _
  | unadvised => exact .of_abortedAtOnce rfl rfl rfl _ _
  | unlisted => exact .of_abortedAtOnce rfl rfl rfl _ _
  | unusable => exact .of_abortedAtOnce rfl rfl rfl _ _
  | exhausted context proposals ledger added hlisted hne _ hrounds =>
    refine .of_rounds hlisted hne hrounds rfl rfl ?_ (by simp) (by simp)
    simp [Cycle.applySteps]
  | ended context proposals ledger added hlisted hne _ hrounds _ =>
    refine .of_rounds hlisted hne hrounds rfl rfl ?_ (by simp) (by simp)
    simp [Cycle.applySteps]

theorem SessionCourse.agrees
    (hs : SessionCourse config id d remaining used evidence history outcome document calls)
    {last : List Call} (hlast : ∀ call ∈ last, call.isCycleRecord = false) :
    List.Forall₂ (Cycle.Agrees config) history (callsByCycle (calls ++ last)).dropLast := by
  refine hs.forall₂_byCycle (fun hcourse => hcourse.agrees) (fun hphase ha => ha.closed ?_) hlast
  rintro rfl
  cases hphase

end Courses

/-- Whatever the collaborators answer and whenever the session is asked to stop: in every cycle the
hypotheses and the trials tell the same. -/
theorem session_agrees {W : Type} (config : SessionConfig) (c : Collaborators W) (r : Recorder W)
    (id : String) (d : Document) (w : W) :
    List.Forall₂ (Cycle.Agrees config) (sessionResult config c r id d w).history
      (callsByCycle (sessionCalls config c r id d w)).dropLast := by
  obtain ⟨history, calls, answer, hcourse, hhistory, hcalls⟩ := sessionCourse config c r id d w
  rw [hhistory, hcalls]
  exact SessionOutcome.forall₂_historyOf (fun ha => ha.closed nofun) _
    (hcourse.agrees (by simp [Call.isCycleRecord]))

end TextRepair
