import TextRepair.Proofs.Session.Cycles

/-!
# Sessions walk along the phases

Main statement, `session_walks`: the phases of every cycle begin with the diagnosis and each of them may
follow the one before it; every cycle but the last one ends exhausted or aborted, and the last one ends
in the phase of the outcome. A phase that ends the session has no successors, so on such a path it
can only be the last one.

`Phase.Walk p phases q` leads from `p` by `phases` to `q`, so the parts of a course have walks that are
put together as the course is: `CheckCourse.walk` from `applying`, and so on up to
`SessionCourse.walks`.
-/

namespace TextRepair

namespace Phase

/-- From `p` along the phases of a list to `q`, each step allowed. -/
def Walk : Phase → List Phase → Phase → Prop
  | p, [], q => p = q
  | p, next :: rest, q => p.allows next = true ∧ Walk next rest q

theorem Walk.append {p q r : Phase} {phases phases' : List Phase} (hw : Walk p phases q)
    (hw' : Walk q phases' r) : Walk p (phases ++ phases') r := by
  induction phases generalizing p with
  | nil =>
    obtain rfl : p = q := hw
    exact hw'
  | cons next rest ih => exact ⟨hw.1, ih hw.2⟩

theorem Walk.isPath {p q : Phase} {phases : List Phase} (hw : Walk p phases q) :
    isPath (p :: phases) = true := by
  induction phases generalizing p with
  | nil => rfl
  | cons next rest ih =>
    rw [Phase.isPath, hw.1, Bool.true_and]
    exact ih hw.2

theorem Walk.getLast? {p q : Phase} {phases : List Phase} (hw : Walk p phases q) :
    (p :: phases).getLast? = some q := by
  induction phases generalizing p with
  | nil =>
    obtain rfl : p = q := hw
    rfl
  | cons next rest ih =>
    rw [List.getLast?_cons_cons]
    exact ih hw.2

theorem isTerminal_of_allows {p next : Phase} (h : p.allows next = true) : p.isTerminal = false := by
  cases p <;> first | rfl | exact absurd h (by simp [allows, successors])

theorem isTerminal_of_mem_dropLast {phases : List Phase} (h : isPath phases = true) :
    ∀ p ∈ phases.dropLast, p.isTerminal = false := by
  induction phases with
  | nil => exact fun p hp => absurd hp List.not_mem_nil
  | cons p rest ih =>
    cases rest with
    | nil => exact fun p hp => absurd hp List.not_mem_nil
    | cons q rest =>
      obtain ⟨hstep, hrest⟩ := Bool.and_eq_true_iff.mp h
      rw [List.dropLast_cons_cons]
      exact List.forall_mem_cons.mpr ⟨isTerminal_of_allows hstep, ih hrest⟩

end Phase

/-- The phase in which a session of this outcome ends. -/
def SessionOutcome.phase : SessionOutcome → Phase
  | succeeded => .sessionSucceeded
  | exhausted => .sessionFailed
  | cancelled => .sessionCancelled

section Courses

variable {config : SessionConfig} {context : Context} {d candidate : Document} {edit : Edit}
  {plan : String} {h : Hypothesis} {trial trial' : Trial} {standing : Standing} {phases : List Phase}
  {calls : List Call}

theorem CheckCourse.walk
    (hc : CheckCourse config context candidate trial trial' standing phases calls) :
    Phase.Walk .applying phases standing.phase := by
  cases hc <;> simp [Phase.Walk, Phase.allows, Phase.successors, Standing.phase]

theorem EditCourse.walk (hc : EditCourse config context d edit trial trial' standing phases calls) :
    Phase.Walk .generating phases standing.phase := by
  cases hc with
  | malformed => exact ⟨rfl, rfl, rfl⟩
  | unplaced => exact ⟨rfl, rfl, rfl⟩
  | applied out hresult hsuccess hcheck => exact ⟨rfl, hcheck.walk⟩

theorem PlanCourse.walk (hc : PlanCourse config context d plan trial trial' standing phases calls) :
    Phase.Walk .planning phases standing.phase := by
  cases hc with
  | stopped => exact ⟨rfl, rfl⟩
  | failed => exact ⟨rfl, rfl, rfl⟩
  | edited edit hedit => exact ⟨rfl, hedit.walk⟩

theorem TrialCourse.walk (hc : TrialCourse config context d h trial standing phases calls) :
    Phase.Walk .hypothesisSelected phases standing.phase := by
  cases hc with
  | stopped => exact ⟨rfl, rfl⟩
  | failed => exact ⟨rfl, rfl, rfl⟩
  | planned plan hplan => exact ⟨rfl, hplan.walk⟩

theorem Rounds.walk {pending after : List Hypothesis} {trials : List Trial}
    (hr : Rounds config context d pending trials standing phases calls after) :
    (pending ≠ [] → Phase.Walk .diagnosing phases standing.phase) ∧
      Phase.Walk .hypothesisRejected phases standing.phase := by
  induction hr with
  | exhausted => exact ⟨fun hne => absurd rfl hne, rfl⟩
  | stopped => exact ⟨fun _ => ⟨rfl, rfl⟩, rfl, rfl⟩
  | rejected hfirst _ ih =>
    exact ⟨fun _ => ⟨rfl, hfirst.walk.append ih.2⟩, rfl, hfirst.walk.append ih.2⟩
  | ended hlast _ => exact ⟨fun _ => ⟨rfl, hlast.walk⟩, rfl, hlast.walk⟩

end Courses

/-! ### Cycles and sessions -/

/-- The phases of a cycle lead from the diagnosis to `last`. -/
def Cycle.Walks (cycle : Cycle) (last : Phase) : Prop :=
  ∃ rest, cycle.phases = .diagnosing :: rest ∧ Phase.Walk .diagnosing rest last

namespace Cycle

variable {cycle : Cycle} {last next : Phase}

theorem Walks.closed (hw : cycle.Walks last) (hnext : last.allows next = true) :
    (cycle.closed next).Walks next := by
  obtain ⟨rest, hphases, hwalk⟩ := hw
  refine ⟨rest ++ [next], ?_, hwalk.append ⟨hnext, rfl⟩⟩
  rw [Cycle.closed, hphases, List.cons_append]

theorem Walks.head? (hw : cycle.Walks last) : cycle.phases.head? = some .diagnosing := by
  obtain ⟨rest, hphases, -⟩ := hw
  rw [hphases, List.head?_cons]

theorem Walks.isPath (hw : cycle.Walks last) : Phase.isPath cycle.phases = true := by
  obtain ⟨rest, hphases, hwalk⟩ := hw
  rw [hphases]
  exact hwalk.isPath

theorem Walks.getLast? (hw : cycle.Walks last) : cycle.phases.getLast? = some last := by
  obtain ⟨rest, hphases, hwalk⟩ := hw
  rw [hphases]
  exact hwalk.getLast?

theorem Walks.isTerminal (hw : cycle.Walks last) (hlast : last.isTerminal = false) :
    ∀ phase ∈ cycle.phases, phase.isTerminal = false := by
  intro phase hphase
  rw [← List.dropLast_append_getLast? last hw.getLast?] at hphase
  rcases List.mem_append.mp hphase with hphase | hphase
  · exact Phase.isTerminal_of_mem_dropLast hw.isPath phase hphase
  · rw [List.mem_singleton.mp hphase, hlast]

/-- A cycle that ends where the next one may begin. -/
def EndsOpen (cycle : Cycle) : Prop :=
  cycle.Walks .hypothesisExhausted ∨ cycle.Walks .cycleAborted

theorem EndsOpen.closed (ho : cycle.EndsOpen)
    (hnext : next = .sessionFailed ∨ next = .sessionCancelled) :
    (cycle.closed next).Walks next := by
  rcases ho with hw | hw <;> rcases hnext with rfl | rfl <;> exact hw.closed rfl

end Cycle

section Courses

variable {config : SessionConfig} {d : Document} {calls : List Call} {index used remaining : Nat}
  {startedAt : Timestamp} {evidence : List String} {id : String} {finished : Finished}
  {history : List Cycle} {outcome : SessionOutcome} {document : Document}

theorem Cycle.endsOpen_abortedAtOnce (cycle : Cycle) (reason : String) :
    (cycle.abortedAtOnce reason).EndsOpen :=
  Or.inr ⟨[.cycleAborted], rfl, rfl, rfl⟩

theorem CycleCourse.walks (hc : CycleCourse config index startedAt d evidence finished calls) :
    (finished.cycle.outcome = .succeeded → finished.cycle.Walks .cycleSucceeded) ∧
      (finished.cycle.outcome ≠ .succeeded → finished.cycle.EndsOpen) := by
  cases hc with
  | undiagnosed => exact ⟨nofun, fun _ => Cycle.endsOpen_abortedAtOnce _ _⟩
  | clean => exact ⟨fun _ => ⟨[.cycleSucceeded], rfl, rfl, rfl⟩, fun hfailure => absurd rfl hfailure⟩
  | stopped => exact ⟨nofun, fun _ => Cycle.endsOpen_abortedAtOnce _ _⟩
  | unadvised => exact ⟨nofun, fun _ => Cycle.endsOpen_abortedAtOnce _ _⟩
  | unlisted => exact ⟨nofun, fun _ => Cycle.endsOpen_abortedAtOnce _ _⟩
  | unusable => exact ⟨nofun, fun _ => Cycle.endsOpen_abortedAtOnce _ _⟩
  | exhausted _ _ _ _ _ hne _ hrounds =>
    have hend : Phase.Walk .hypothesisRejected [.hypothesisExhausted] .hypothesisExhausted :=
      ⟨rfl, rfl⟩
    have hwalk := (hrounds.walk.1 hne).append hend
    exact ⟨nofun, fun _ => Or.inl ⟨_, rfl, hwalk⟩⟩
  | @ended _ _ _ _ _ hne _ standing _ _ _ _ hrounds hover =>
    have hwalk := hrounds.walk.1 hne
    cases standing with
    | going => exact absurd rfl hover
    | stopped => exact ⟨nofun, fun _ => Or.inr ⟨_, rfl, hwalk⟩⟩
    | mended => exact ⟨fun _ => ⟨_, rfl, hwalk⟩, fun hfailure => absurd rfl hfailure⟩

theorem SessionCourse.outcome_of_nil
    (hs : SessionCourse config id d (remaining + 1) used evidence [] outcome document calls) :
    outcome = .cancelled := by
  cases hs
  rfl

/-- All cycles but the last one end where the next one may begin; the last one ends in the phase of the
outcome, or as the others do if the session was stopped between two cycles. -/
theorem SessionCourse.walks
    (hs : SessionCourse config id d remaining used evidence history outcome document calls) :
    history = [] ∨ ∃ before last, history = before ++ [last] ∧ (∀ cycle ∈ before, cycle.EndsOpen) ∧
      (last.Walks outcome.phase ∨ outcome = .cancelled ∧ last.EndsOpen) := by
  induction hs with
  | bound => exact Or.inl rfl
  | stopped => exact Or.inl rfl
  | cancelled hcourse hstop =>
    have hopen := hcourse.walks.2 (hcourse.outcome_of_isCancelled hstop)
    exact Or.inr ⟨[], _, rfl, List.forall_mem_nil _, Or.inl (hopen.closed (Or.inr rfl))⟩
  | succeeded hcourse _ hsuccess =>
    exact Or.inr ⟨[], _, rfl, List.forall_mem_nil _, Or.inl ((hcourse.walks.1 hsuccess).closed rfl)⟩
  | failed hcourse _ hfailure =>
    have hopen := hcourse.walks.2 hfailure
    exact Or.inr ⟨[], _, rfl, List.forall_mem_nil _, Or.inl (hopen.closed (Or.inl rfl))⟩
  | next hcourse _ hfailure _ hrest ih =>
    have hopen := hcourse.walks.2 hfailure
    right
    rcases ih with rfl | ⟨before, last, rfl, hbefore, hlast⟩
    · exact ⟨[], _, rfl, List.forall_mem_nil _, Or.inr ⟨hrest.outcome_of_nil, hopen⟩⟩
    · exact ⟨_ :: before, last, rfl, List.forall_mem_cons.mpr ⟨hopen, hbefore⟩, hlast⟩

end Courses

/-! ### The late end of a session -/

theorem Cycle.Walks.markedCancelled {cycle : Cycle}
    (hw : cycle.Walks .sessionCancelled ∨ cycle.EndsOpen) :
    cycle.markedCancelled.Walks .sessionCancelled := by
  unfold Cycle.markedCancelled
  split_ifs with hlast
  · rcases hw with hw | hw | hw
    · exact hw
    · rw [hw.getLast?] at hlast
      cases hlast
    · rw [hw.getLast?] at hlast
      cases hlast
  · rcases hw with hw | hopen
    · exact absurd hw.getLast? hlast
    · exact hopen.closed (Or.inr rfl)

theorem sessionResult_walks {W : Type} (config : SessionConfig) (c : Collaborators W)
    (r : Recorder W) (id : String) (d : Document) (w : W) :
    (sessionResult config c r id d w).history = [] ∨ ∃ before last,
      (sessionResult config c r id d w).history = before ++ [last] ∧
      (∀ cycle ∈ before, cycle.EndsOpen) ∧
      last.Walks (sessionResult config c r id d w).outcome.phase := by
  obtain ⟨history, calls, answer, hcourse, hhistory, -⟩ := sessionCourse config c r id d w
  rw [hhistory]
  rcases hcourse.walks with rfl | ⟨before, last, rfl, hbefore, hlast⟩
  · left
    unfold SessionOutcome.historyOf
    split <;> rfl
  right
  unfold SessionOutcome.historyOf
  split_ifs with hcancelled
  · rw [hcancelled] at hlast ⊢
    refine ⟨before, _, markCancelled_append_singleton before last, hbefore, ?_⟩
    exact Cycle.Walks.markedCancelled (hlast.imp (fun hw => hw) And.right)
  · exact ⟨before, last, rfl, hbefore, hlast.resolve_right fun h => hcancelled h.1⟩

/-- Whatever the collaborators answer and whenever the session is asked to stop, its cycles walk along
the phases from the diagnosis on: every one but the last to an exhausted or aborted end, the last one to
the phase of the outcome, and no other phase that ends a session occurs. -/
theorem session_walks {W : Type} (config : SessionConfig) (c : Collaborators W) (r : Recorder W)
    (id : String) (d : Document) (w : W) :
    (∀ cycle ∈ (sessionResult config c r id d w).history,
      cycle.phases.head? = some .diagnosing ∧ Phase.isPath cycle.phases = true) ∧
    (∀ cycle ∈ (sessionResult config c r id d w).history.dropLast,
      (cycle.phases.getLast? = some .hypothesisExhausted ∨
        cycle.phases.getLast? = some .cycleAborted) ∧
      ∀ phase ∈ cycle.phases, phase.isTerminal = false) ∧
    ∀ cycle ∈ (sessionResult config c r id d w).history.getLast?,
      cycle.phases.getLast? = some (sessionResult config c r id d w).outcome.phase ∧
      ∀ phase ∈ cycle.phases.dropLast, phase.isTerminal = false := by
  rcases sessionResult_walks config c r id d w with hnil | ⟨before, last, hhistory, hbefore, hlast⟩
  · rw [hnil, List.getLast?_nil]
    exact ⟨List.forall_mem_nil _, List.forall_mem_nil _,
      fun cycle hcycle => absurd hcycle (Option.not_mem_none cycle)⟩
  rw [hhistory, List.dropLast_concat, List.getLast?_concat]
  refine ⟨?_, ?_, ?_⟩
  · intro cycle hcycle
    rcases List.mem_append.mp hcycle with hcycle | hcycle
    · rcases hbefore cycle hcycle with hw | hw <;> exact ⟨hw.head?, hw.isPath⟩
    · rw [List.mem_singleton.mp hcycle]
      exact ⟨hlast.head?, hlast.isPath⟩
  · intro cycle hcycle
    rcases hbefore cycle hcycle with hw | hw
    · exact ⟨Or.inl hw.getLast?, hw.isTerminal rfl⟩
    · exact ⟨Or.inr hw.getLast?, hw.isTerminal rfl⟩
  · rintro cycle ⟨⟩
    exact ⟨hlast.getLast?, Phase.isTerminal_of_mem_dropLast hlast.isPath⟩

end TextRepair
