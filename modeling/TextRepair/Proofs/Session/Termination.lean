import TextRepair.Proofs.Ledger.States
import TextRepair.Proofs.Session.Cycles

/-!
# The trials of a cycle come to an end

A cycle tries hypotheses until a round tells it to leave off. `nextRound` is one such round, and
`Loops` is the loop over it, which nothing bounds. Main statement, `loops_iff`: on any cycle, whatever
its ledger holds and whatever the collaborators answer, the loop ends, and it ends with the result of
`tryAll`, whose count of rounds never runs out.

The measure is the number of hypotheses that are still proposed (`Ledger.toTry`): a round that goes on
has taken one of them away (`toTry_selectNext`), and no work in the round puts one back
(`Served.toTry_le`).
-/

namespace TextRepair

namespace Ledger

/-- The number of hypotheses that can still be selected. -/
def toTry (l : Ledger) : Nat :=
  l.hypotheses.countP (·.status = .proposed)

theorem toTry_le_length (l : Ledger) : l.toTry ≤ l.hypotheses.length :=
  List.countP_le_length

theorem toTry_selectNext {l l' : Ledger} {h : Hypothesis}
    (hselect : l.selectNext = .ok (some (h, l'))) : l'.toTry < l.toTry := by
  have hserved := l.served .selectNext
  simp only [serve, hselect] at hserved
  cases hserved with
  | selected _ before h after hsplit _ hproposed =>
    simp [toTry, hsplit, hproposed, List.countP_append]

theorem Work.target_ne_proposed (work : Work) : work.target ≠ .proposed := by
  cases work <;> exact nofun

theorem Served.toTry_le {l l' : Ledger} {id : Nat} {work : Work} {answer : Except LedgerError Reply}
    (hs : l.Served (.work id work) l' answer) : l'.toTry ≤ l.toTry := by
  cases hs with
  | unknown => exact Nat.le_refl _
  | refused => exact Nat.le_refl _
  | worked _ before h after hsplit =>
    have hmoved : (work.result h).status ≠ .proposed := work.target_ne_proposed
    simp [toTry, hsplit, hmoved, List.countP_append, List.countP_cons]

end Ledger

/-! ### Trials -/

namespace CycleRun

variable (run : CycleRun) {n : Nat}

theorem toTry_moveLedger (hn : run.ledger.toTry ≤ n) (id : Nat) (work : Ledger.Work) :
    (run.moveLedger (·.work id work)).ledger.toTry ≤ n := by
  have hserve : (run.moveLedger (·.work id work)).ledger = (run.ledger.serve (.work id work)).1 := by
    unfold moveLedger Ledger.serve
    simp only
    cases run.ledger.work id work <;> rfl
  rw [hserve]
  exact (run.ledger.served (.work id work)).toTry_le.trans hn

theorem toTry_reject (hn : run.ledger.toTry ≤ n) (trial : Trial) (reason : String) :
    (run.reject trial reason).ledger.toTry ≤ n :=
  (run.tell _).toTry_moveLedger hn trial.hypothesisId (.reject reason)

end CycleRun

section Programs

variable {W : Type} (config : SessionConfig) (c : Collaborators W) (context : Context) (d : Document)
  (trial : Trial) (run : CycleRun) {n : Nat}

theorem observes_checkCandidate_toTry (candidate : Document) (hn : run.ledger.toTry ≤ n) :
    Observes (checkCandidate config c.observed context candidate trial run)
      (checkCandidate config c context candidate trial run) fun run' _ => run'.ledger.toTry ≤ n := by
  unfold checkCandidate
  refine (observes_checkpoint c run).bind ?_
  rintro run' _ (⟨rfl, rfl⟩ | ⟨rfl, rfl⟩)
  · exact Observes.pure hn
  split_ifs
  · exact Observes.pure hn
  refine Observes.call fun answer => ?_
  cases answer with
  | error e => exact Observes.pure ((run'.enter _).toTry_reject hn _ _)
  | ok report =>
    simp only
    split_ifs
    · exact Observes.pure (((run'.enter _).sees _).toTry_moveLedger hn trial.hypothesisId .accept)
    · exact Observes.pure (((run'.enter _).sees _).toTry_reject hn _ _)

theorem observes_applyCandidate_toTry (edit : Edit) (hn : run.ledger.toTry ≤ n) :
    Observes (applyCandidate config c.observed context d edit trial run)
      (applyCandidate config c context d edit trial run) fun run' _ => run'.ledger.toTry ≤ n := by
  unfold applyCandidate
  simp only
  cases config.apply.applyEdit d edit with
  | error e => exact Observes.pure ((run.enter _).toTry_reject hn _ _)
  | ok out =>
    simp only
    split_ifs
    · exact observes_checkCandidate_toTry config c context _ _ _
        (((run.enter _).tell _).toTry_moveLedger hn trial.hypothesisId (.attempt edit.hunks))
    · exact Observes.pure (((run.enter _).tell _).toTry_reject hn _ _)

theorem observes_generate_toTry (plan : String) (hn : run.ledger.toTry ≤ n) :
    Observes (generate config c.observed context d plan trial run)
      (generate config c context d plan trial run) fun run' _ => run'.ledger.toTry ≤ n := by
  unfold generate
  refine (observes_checkpoint c run).bind ?_
  rintro run' _ (⟨rfl, rfl⟩ | ⟨rfl, rfl⟩)
  · exact Observes.pure hn
  split_ifs
  · exact Observes.pure hn
  refine Observes.call fun answer => ?_
  cases answer with
  | error e => exact Observes.pure ((run'.enter _).toTry_reject hn _ _)
  | ok edit => exact observes_applyCandidate_toTry config c context d _ (run'.enter _) edit hn

theorem observes_tryHypothesis_toTry (h : Hypothesis) (hn : run.ledger.toTry ≤ n) :
    Observes (tryHypothesis config c.observed context d h run)
      (tryHypothesis config c context d h run) fun run' _ => run'.ledger.toTry ≤ n := by
  unfold tryHypothesis
  refine (observes_checkpoint c run).bind ?_
  rintro run' _ (⟨rfl, rfl⟩ | ⟨rfl, rfl⟩)
  · exact Observes.pure hn
  split_ifs
  · exact Observes.pure hn
  refine Observes.call fun answer => ?_
  cases answer with
  | error e => exact Observes.pure ((run'.enter _).toTry_reject hn _ _)
  | ok plan => exact observes_generate_toTry config c context d _ (run'.enter _) plan hn

/-! ### Rounds -/

/-- One round of a cycle: how the cycle stands after it, and whether there is another one. -/
def nextRound (run : CycleRun) : StateM W (ForInStep CycleRun) := do
  let run ← checkpoint c run
  if run.isCancelled then return .done run
  match run.ledger.selectNext with
  | .error e => return .done (run.abort e.message)
  | .ok none => return .done run
  | .ok (some (h, ledger)) =>
    let run ← tryHypothesis config c context d h (run.select h ledger)
    if run.hasSucceeded || run.isCancelled then return .done run
    else return .yield run

/-- The loop over the rounds: it leads from a cycle and a world to what they are in the end. -/
inductive Loops : CycleRun → W → CycleRun → W → Prop
  | done {run run' : CycleRun} {w w' : W}
      (last : nextRound config c context d run w = (.done run', w')) : Loops run w run' w'
  | yield {run mid run' : CycleRun} {w v w' : W}
      (round : nextRound config c context d run w = (.yield mid, v)) (rest : Loops mid v run' w') :
    Loops run w run' w'

theorem observes_nextRound :
    Observes (nextRound config c.observed context d run) (nextRound config c context d run)
      fun step _ => ∀ run', step = .yield run' → run'.ledger.toTry < run.ledger.toTry := by
  have hdone : ∀ last run' : CycleRun, ForInStep.done last = .yield run' →
      run'.ledger.toTry < run.ledger.toTry := by
    rintro last run' ⟨⟩
  unfold nextRound
  refine (observes_checkpoint c run).bind ?_
  rintro run' _ (⟨rfl, rfl⟩ | ⟨rfl, rfl⟩)
  · exact Observes.pure (hdone _)
  split_ifs
  · exact Observes.pure (hdone _)
  cases hselect : run'.ledger.selectNext with
  | error e => exact Observes.pure (hdone _)
  | ok next =>
    cases next with
    | none => exact Observes.pure (hdone _)
    | some next =>
      obtain ⟨h, ledger⟩ := next
      refine (observes_tryHypothesis_toTry config c context d (run'.select h ledger) h
        (Nat.le_refl _)).bind fun tried _ htried => ?_
      split_ifs
      · exact Observes.pure (hdone _)
      · refine Observes.pure ?_
        rintro _ ⟨⟩
        exact htried.trans_lt (Ledger.toTry_selectNext hselect)

variable {config c context d run} {run' mid : CycleRun} {w v w' : W} {rounds : Nat}

theorem toTry_of_yield (hround : nextRound config c context d run w = (.yield mid, v)) :
    mid.ledger.toTry < run.ledger.toTry := by
  obtain ⟨_, -, hless⟩ := observes_nextRound config c context d run w []
  exact hless mid (congrArg Prod.fst hround)

theorem tryAll_succ (rounds : Nat) (run : CycleRun) (w : W) :
    tryAll config c context d (rounds + 1) run w =
      match nextRound config c context d run w with
      | (.done run', w') => (run', w')
      | (.yield mid, v) => tryAll config c context d rounds mid v := by
  let next : ForInStep CycleRun → StateM W CycleRun
    | .done run' => pure run'
    | .yield mid => tryAll config c context d rounds mid
  have hbind : tryAll config c context d (rounds + 1) run
      = nextRound config c context d run >>= next := by
    rw [tryAll, nextRound, bind_assoc]
    refine bind_congr fun run' => ?_
    split_ifs
    · rw [pure_bind]
    cases run'.ledger.selectNext with
    | error e => rfl
    | ok selection =>
      cases selection with
      | none => rfl
      | some selection =>
        simp only [bind_assoc]
        refine bind_congr fun tried => ?_
        split_ifs <;> rfl
  have hstep : (nextRound config c context d run >>= next) w
      = next (nextRound config c context d run w).1 (nextRound config c context d run w).2 := rfl
  rw [hbind, hstep]
  obtain ⟨step, v⟩ := nextRound config c context d run w
  cases step <;> rfl

theorem tryAll_zero (hnone : run.ledger.toTry = 0) :
    tryAll config c context d 0 run = tryAll config c context d 1 run := by
  unfold tryAll checkpoint
  rw [bind_assoc, bind_assoc]
  refine bind_congr fun stop => ?_
  cases stop with
  | true => rfl
  | false =>
    simp only [Bool.false_eq_true, if_false, pure_bind]
    split_ifs
    · rfl
    cases hselect : run.ledger.selectNext with
    | error e => rfl
    | ok next =>
      cases next with
      | none => rfl
      | some next =>
        obtain ⟨h, ledger⟩ := next
        have hless := Ledger.toTry_selectNext hselect
        omega

theorem tryAll_of_done (hround : nextRound config c context d run w = (.done run', w'))
    (hrounds : run.ledger.toTry ≤ rounds) : tryAll config c context d rounds run w = (run', w') := by
  cases rounds with
  | zero => rw [tryAll_zero (Nat.le_zero.mp hrounds), tryAll_succ, hround]
  | succ rounds => rw [tryAll_succ, hround]

theorem loops_tryAll (hrounds : run.ledger.toTry ≤ rounds) :
    Loops config c context d run w (tryAll config c context d rounds run w).1
      (tryAll config c context d rounds run w).2 := by
  induction hn : run.ledger.toTry using Nat.strong_induction_on generalizing run w rounds with
  | _ n ih =>
    -- Either this round is the last one, or the next cycle has less to try.
    rcases hround : nextRound config c context d run w with ⟨run' | mid, v⟩
    · rw [tryAll_of_done hround hrounds]
      exact .done hround
    · have hless := toTry_of_yield hround
      obtain ⟨more, rfl⟩ : ∃ n, rounds = n + 1 := Nat.exists_eq_succ_of_ne_zero (by omega)
      rw [tryAll_succ, hround]
      exact .yield hround (ih _ (by omega) (by omega) rfl)

/-- The loop always ends, and it ends as `tryAll` does. -/
theorem loops_iff (hrounds : run.ledger.toTry ≤ rounds) :
    Loops config c context d run w run' w' ↔
      tryAll config c context d rounds run w = (run', w') := by
  constructor
  · intro hl
    induction hl generalizing rounds with
    | done hlast => exact tryAll_of_done hlast hrounds
    | yield hround _ ih =>
      have hless := toTry_of_yield hround
      obtain ⟨more, rfl⟩ : ∃ n, rounds = n + 1 := Nat.exists_eq_succ_of_ne_zero (by omega)
      rw [tryAll_succ, hround]
      exact ih (by omega)
  · intro htry
    have hl : Loops config c context d run w _ _ := loops_tryAll hrounds
    rwa [htry] at hl

end Programs

end TextRepair
