import TextRepair.Proofs.Ledger.Selection

/-!
# After an acceptance

An acceptance settles its hypothesis for good, but it does not close the ledger: a selection looks only for
a hypothesis that is being worked on, and the accepted one is not. Main statement, `ledger_accepts`: at most
one hypothesis is accepted, and one more for each selection that comes after an acceptance
(`lateSelections`). So it is one at most if whoever uses the ledger selects nothing any more, and not in
general (`not_accepts_once`).

What is counted is the hypotheses that were selected and not rejected (`standing`). Before the first
acceptance there is at most one, since nothing is selected while it is being worked on; from then on only a
late selection makes them more (`Served.standing_le`).
-/

namespace TextRepair

/-- Whether a hypothesis was selected and is not rejected. -/
def Status.stands (s : Status) : Bool :=
  s.isActive || s = .accepted

namespace Ledger

/-- The hypotheses that calls select after one is accepted. -/
def lateSelections (l : Ledger) : List Request → List Hypothesis
  | [] => []
  | request :: requests =>
    (if l.accepted?.isSome then (selection? (l.serve request).2).toList else []) ++
      (l.serve request).1.lateSelections requests

/-- The number of hypotheses that were selected and are not rejected. -/
def standing (l : Ledger) : Nat :=
  l.hypotheses.countP (·.status.stands)

theorem standing_eq_zero {l : Ledger} (hidle : l.active? = none) (hopen : l.accepted? = none) :
    l.standing = 0 := by
  rw [active?, List.find?_eq_none] at hidle
  rw [accepted?, List.find?_eq_none] at hopen
  rw [standing, List.countP_eq_zero]
  intro h hh
  rw [Status.stands, Bool.or_eq_true]
  exact not_or.mpr ⟨hidle h hh, hopen h hh⟩

theorem Work.stands_of_allows {work : Work} {s : Status} (hallowed : work.allows s = true) :
    s.stands = true := by
  rw [Status.stands, Work.isActive_of_allows hallowed, Bool.true_or]

/-- Only a selection makes more hypotheses stand, and one that is not late is of the first one. -/
theorem Served.standing_le {l l' : Ledger} {request : Request} {answer : Except LedgerError Reply}
    (hs : l.Served request l' answer) :
    max 1 l'.standing ≤
      max 1 l.standing + (if l.accepted?.isSome then (selection? answer).toList else []).length := by
  cases hs with
  | nothing => exact Nat.le_add_right _ _
  | added explanations =>
    obtain ⟨new, hfresh, hnew⟩ := exists_foldl_addOne explanations (l, ⟨[], 0⟩)
    have hnone : new.countP (·.status.stands) = 0 :=
      List.countP_eq_zero.mpr fun x hx => by simp [(hfresh x hx).status, Status.stands, Status.isActive]
    rw [standing, hnew, List.countP_append, hnone]
    exact Nat.le_add_right _ _
  | busy => exact Nat.le_add_right _ _
  | unproposed => exact Nat.le_add_right _ _
  | selected hidle before h after hsplit _ hproposed =>
    have hone : standing { l with hypotheses := before ++ { h with status := .selected } :: after }
        = l.standing + 1 := by
      simp only [standing, hsplit, List.countP_append, List.countP_cons, hproposed]
      rfl
    rw [hone]
    cases hopen : l.accepted? with
    | none =>
      rw [standing_eq_zero hidle hopen]
      exact Nat.le_add_right _ _
    | some x =>
      change max 1 (l.standing + 1) ≤ max 1 l.standing + 1
      omega
  | unknown => exact Nat.le_add_right _ _
  | refused => exact Nat.le_add_right _ _
  | worked work before h after hsplit _ hallowed =>
    -- The hypothesis stood before, and it stands or is rejected now.
    have hstood := Work.stands_of_allows hallowed
    have hle : standing { l with hypotheses := before ++ work.result h :: after } ≤ l.standing := by
      simp only [standing, hsplit, List.countP_append, List.countP_cons, hstood, if_true]
      split <;> omega
    omega

theorem standing_serveAll_le (requests : List Request) :
    ∀ l : Ledger,
      max 1 (l.serveAll requests).standing ≤ max 1 l.standing + (l.lateSelections requests).length := by
  induction requests with
  | nil => exact fun l => Nat.le_add_right _ _
  | cons request rest ih =>
    intro l
    have hstep := (l.served request).standing_le
    have hrest := ih (l.serve request).1
    rw [serveAll_cons, lateSelections, List.length_append]
    omega

theorem countP_accepted_le_standing (l : Ledger) :
    l.hypotheses.countP (·.status = .accepted) ≤ l.standing :=
  List.countP_mono_left fun h _ haccepted => by
    rw [Status.stands, haccepted, Bool.or_true]

theorem not_mem_ids_selections {l : Ledger} (hlawful : l.IsLawful) (horder : l.InOrder) {h : Hypothesis}
    (hh : h ∈ l.begun) (more : List Request) : h.id ∉ (l.selections more).map Hypothesis.id := by
  have hids := (hlawful.serveAll more).pairwise_ids_begun
  rw [ids_begun_serveAll more l horder, List.pairwise_append] at hids
  exact fun hmem => Nat.lt_irrefl _ (hids.2.2 _ (List.mem_map_of_mem hh) _ hmem)

theorem mem_serveAll {l : Ledger} {h : Hypothesis} (hh : h ∈ l.hypotheses)
    (hsettled : h.status = .rejected ∨ h.status = .accepted) (more : List Request) :
    h ∈ (l.serveAll more).hypotheses := by
  obtain ⟨i, hi⟩ := List.mem_iff_getElem?.mp hh
  exact List.mem_iff_getElem?.mpr ⟨i, getElem?_serveAll more hsettled l hi⟩

theorem exists_selectNext_iff {l : Ledger} :
    (∃ h l', l.selectNext = .ok (some (h, l'))) ↔
      l.active? = none ∧ ∃ h ∈ l.hypotheses, h.status = .proposed := by
  constructor
  · rintro ⟨h, l', hselect⟩
    cases served_of_selectNext hselect with
    | selected hidle before h after hsplit _ hproposed =>
      exact ⟨hidle, h, by simp [hsplit], hproposed⟩
  · rintro ⟨hidle, h, hh, hproposed⟩
    cases hselect : l.selectNext with
    | error e =>
      rw [selectNext, hidle] at hselect
      simp only at hselect
      split at hselect <;> cases hselect
    | ok answer =>
      cases answer with
      | none => exact absurd hproposed ((selectNext_eq_none_iff.mp hselect).2 h hh)
      | some answer => exact ⟨answer.1, answer.2, rfl⟩

/-- Whatever calls a new ledger serves: an accepted hypothesis stays as it is and is not selected again.
At most one is accepted, and one more for each selection after an acceptance; and such a selection succeeds
like any other, if nothing is being worked on and something is proposed. -/
theorem ledger_accepts {start : Ledger} (hstart : start = empty ∨ start = blank)
    (requests : List Request) :
    let l := start.serveAll requests
    (∀ h ∈ l.hypotheses, h.status = .accepted → ∀ more,
      h ∈ (l.serveAll more).hypotheses ∧ h.id ∉ (l.selections more).map Hypothesis.id) ∧
    l.hypotheses.countP (·.status = .accepted) ≤ 1 + (start.lateSelections requests).length ∧
    ((∃ h l', l.selectNext = .ok (some (h, l'))) ↔
      l.active? = none ∧ ∃ h ∈ l.hypotheses, h.status = .proposed) := by
  intro l
  have hlawful : l.IsLawful := (isLawful_of_start hstart).serveAll requests
  have horder : l.InOrder := inOrder_serveAll requests start (inOrder_of_start hstart)
  refine ⟨fun h hh haccepted more => ⟨?_, ?_⟩, ?_, exists_selectNext_iff⟩
  · exact mem_serveAll hh (.inr haccepted) more
  · refine not_mem_ids_selections hlawful horder (mem_begun.mpr ⟨hh, ?_⟩) more
    rw [haccepted]
    exact nofun
  · have hnothing : start.standing = 0 := by
      rcases hstart with rfl | rfl <;> rfl
    have hstanding := standing_serveAll_le requests start
    rw [hnothing] at hstanding
    have haccepted := l.countP_accepted_le_standing
    have hle := (le_max_right 1 l.standing).trans hstanding
    omega

/-- Two explanations, of which both are accepted in turn. -/
def bothAccepted : List Request :=
  [.add ["a", "b"], .selectNext, .work 1 .accept, .selectNext, .work 2 .accept]

theorem ledger_accepts_both :
    (empty.serveAll bothAccepted).hypotheses.countP (·.status = .accepted) = 2 ∧
    (empty.lateSelections bothAccepted).map Hypothesis.id = [2] ∧
    2 ≤ 1 + (empty.lateSelections bothAccepted).length := by
  have haccepted : (empty.serveAll bothAccepted).hypotheses.countP (·.status = .accepted) = 2 := by
    decide +kernel
  obtain ⟨-, hle, -⟩ := ledger_accepts (.inl rfl) bothAccepted
  rw [haccepted] at hle
  exact ⟨haccepted, by decide +kernel, hle⟩

/-- Neither is at most one hypothesis accepted, nor is nothing selected after an acceptance. -/
theorem not_accepts_once :
    (¬∀ requests, (empty.serveAll requests).hypotheses.countP (·.status = .accepted) ≤ 1) ∧
    ¬∀ requests more, (empty.serveAll requests).accepted?.isSome = true →
      (empty.serveAll requests).selections more = [] := by
  refine ⟨fun hclaim => ?_, fun hclaim => ?_⟩
  · have hle := hclaim bothAccepted
    revert hle
    decide +kernel
  · have hnone := hclaim (bothAccepted.take 3) [.selectNext] (by decide +kernel)
    revert hnone
    decide +kernel

end Ledger

end TextRepair
