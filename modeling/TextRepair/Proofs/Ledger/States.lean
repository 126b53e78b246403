import TextRepair.Proofs.Ledger
import TextRepair.Proofs.Text.Blank

/-!
# The states of a ledger

A ledger in use answers calls with any arguments in any order (`Ledger.Request`, `Ledger.serve`), and a
call that is refused leaves it as it is. Main statement, `ledger_lawful`: in every state that calls lead
to from an empty ledger the numbers count up from 1, the explanations are distinct, without outer blanks
and not empty, at most one hypothesis is being worked on, and a reason stands at the rejected ones only;
and from there on no call moves a hypothesis against its order of statuses.

`Served` says once what a call can do, with one constructor for each way in which it can end; the laws
are an invariant of it (`Served.isLawful`), and what a call changes is read off it (`Served.advances`).
-/

namespace TextRepair

/-- The steps of a hypothesis from one status to the next. -/
inductive Status.LeadsTo : Status → Status → Prop
  | selected : LeadsTo .proposed .selected
  | attempted : LeadsTo .selected .patchAttempted
  | rejected {s : Status} (active : s.isActive = true) : LeadsTo s .rejected
  | accepted {s : Status} (active : s.isActive = true) : LeadsTo s .accepted

theorem Status.not_leadsTo {s target : Status} (hs : s = .rejected ∨ s = .accepted) :
    ¬s.LeadsTo target := by
  rintro (_ | _ | ⟨hactive⟩ | ⟨hactive⟩) <;> rcases hs with hs | hs <;> cases hs <;> cases hactive

namespace Ledger

/-! ### Calls -/

/-- What is done with a hypothesis after its selection. -/
inductive Work where
  | attempt (hunks : List Hunk)
  | reject (reason : String)
  | accept

namespace Work

def target : Work → Status
  | attempt _ => .patchAttempted
  | reject _ => .rejected
  | accept => .accepted

def allows : Work → Status → Bool
  | attempt _, s => s = .selected
  | reject _, s | accept, s => s.isActive

def note : Work → Hypothesis → Hypothesis
  | attempt hunks, h => { h with hunks }
  | reject reason, h => { h with rejection := some reason }
  | accept, h => h

/-- What the work makes of a hypothesis. -/
def result (work : Work) (h : Hypothesis) : Hypothesis :=
  { work.note h with status := work.target }

end Work

/-- A call with its arguments. -/
inductive Request where
  | add (explanations : List String)
  | selectNext
  | work (id : Nat) (work : Work)

/-- What a call answers unless it is refused. -/
inductive Reply where
  | added (added : Added)
  | selected (h : Option Hypothesis)
  | done

def work (l : Ledger) (id : Nat) : Work → Except LedgerError Ledger
  | .attempt hunks => l.attempt id hunks
  | .reject reason => l.reject id reason
  | .accept => l.accept id

/-- The ledger after a call and the answer to it. -/
def serve (l : Ledger) : Request → Ledger × Except LedgerError Reply
  | .add explanations =>
    match l.add explanations with
    | .ok (l', added) => (l', .ok (.added added))
    | .error e => (l, .error e)
  | .selectNext =>
    match l.selectNext with
    | .ok (some (h, l')) => (l', .ok (.selected (some h)))
    | .ok none => (l, .ok (.selected none))
    | .error e => (l, .error e)
  | .work id work =>
    match l.work id work with
    | .ok l' => (l', .ok .done)
    | .error e => (l, .error e)

/-- The ledger after calls in order. -/
def serveAll (l : Ledger) (requests : List Request) : Ledger :=
  requests.foldl (fun l request => (l.serve request).1) l

/-- What a call does and answers. -/
inductive Served (l : Ledger) : Request → Ledger → Except LedgerError Reply → Prop
  | nothing : Served l (.add []) l (.error .emptyProposal)
  | added (explanations : List String) (nonempty : explanations ≠ []) :
    Served l (.add explanations) (explanations.foldl addOne (l, ⟨[], 0⟩)).1
      (.ok (.added (explanations.foldl addOne (l, ⟨[], 0⟩)).2))
  | busy (h : Hypothesis) (active : l.active? = some h) :
    Served l .selectNext l (.error (.active h.id))
  | unproposed (idle : l.active? = none) (tried : ∀ h ∈ l.hypotheses, h.status ≠ .proposed) :
    Served l .selectNext l (.ok (.selected none))
  | selected (idle : l.active? = none) (before : List Hypothesis) (h : Hypothesis)
      (after : List Hypothesis) (hypotheses : l.hypotheses = before ++ h :: after)
      (first : ∀ x ∈ before, x.status ≠ .proposed) (proposed : h.status = .proposed) :
    Served l .selectNext { l with hypotheses := before ++ { h with status := .selected } :: after }
      (.ok (.selected (some { h with status := .selected })))
  | unknown (id : Nat) (work : Work) (unlisted : ∀ h ∈ l.hypotheses, h.id ≠ id) :
    Served l (.work id work) l (.error (.unknown id))
  | refused (work : Work) (h : Hypothesis) (found : l.get? h.id = some h)
      (refused : work.allows h.status = false) :
    Served l (.work h.id work) l (.error (.badMove h.id h.status work.target))
  | worked (work : Work) (before : List Hypothesis) (h : Hypothesis) (after : List Hypothesis)
      (hypotheses : l.hypotheses = before ++ h :: after) (first : ∀ x ∈ before, x.id ≠ h.id)
      (allowed : work.allows h.status = true) :
    Served l (.work h.id work) { l with hypotheses := before ++ work.result h :: after } (.ok .done)

theorem work_eq_move (l : Ledger) (id : Nat) (work : Work) :
    l.work id work = l.move id work.target work.allows work.note := by
  cases work <;> rfl

theorem served_selectNext (l : Ledger) :
    l.Served .selectNext (l.serve .selectNext).1 (l.serve .selectNext).2 := by
  unfold serve
  cases hactive : l.active? with
  | some h =>
    have hselect : l.selectNext = .error (.active h.id) := by rw [selectNext, hactive]
    simp only [hselect]
    exact .busy h hactive
  | none =>
    cases hfind : l.hypotheses.find? fun h => decide (h.status = .proposed) with
    | none =>
      have hselect : l.selectNext = .ok none := by
        rw [selectNext, hactive]
        simp only [hfind]
      simp only [hselect]
      exact .unproposed hactive (by simpa using hfind)
    | some h =>
      obtain ⟨hproposed, before, after, hsplit, hfirst⟩ := List.find?_eq_some_iff_append.mp hfind
      have hbefore : ∀ x ∈ before, x.status ≠ .proposed := fun x hx => by simpa using hfirst x hx
      have hselected := of_decide_eq_true hproposed
      simp only [selectNext_eq_ok hactive hsplit hbefore hselected]
      exact .selected hactive before h after hsplit hbefore hselected

theorem served_work (l : Ledger) (id : Nat) (work : Work) :
    l.Served (.work id work) (l.serve (.work id work)).1 (l.serve (.work id work)).2 := by
  simp only [serve, work_eq_move]
  cases hfind : l.get? id with
  | none =>
    have hmove : l.move id work.target work.allows work.note = .error (.unknown id) := by
      rw [move, hfind]
    simp only [hmove]
    refine .unknown id work ?_
    simpa [get?] using hfind
  | some h =>
    obtain ⟨hid, before, after, hsplit, hfirst⟩ := List.find?_eq_some_iff_append.mp hfind
    obtain rfl : h.id = id := of_decide_eq_true hid
    cases hallowed : work.allows h.status with
    | false =>
      have hmove : l.move h.id work.target work.allows work.note
          = .error (.badMove h.id h.status work.target) := by
        rw [move, hfind]
        simp [hallowed]
      simp only [hmove]
      exact .refused work h hfind hallowed
    | true =>
      have hbefore : ∀ x ∈ before, x.id ≠ h.id := fun x hx => by simpa using hfirst x hx
      simp only [move_eq_ok work.target work.note hsplit hbefore hallowed]
      exact .worked work before h after hsplit hbefore hallowed

theorem served_add (l : Ledger) (explanations : List String) :
    l.Served (.add explanations) (l.serve (.add explanations)).1 (l.serve (.add explanations)).2 := by
  by_cases hempty : explanations = []
  · subst hempty
    exact .nothing
  · have hadd : l.add explanations = .ok (explanations.foldl addOne (l, ⟨[], 0⟩)) := by
      rw [add, if_neg (by simpa using hempty)]
    simp only [serve, hadd]
    exact .added explanations hempty

/-- Every call ends in one of these ways. -/
theorem served (l : Ledger) (request : Request) :
    l.Served request (l.serve request).1 (l.serve request).2 := by
  cases request with
  | add explanations => exact l.served_add explanations
  | selectNext => exact l.served_selectNext
  | work id work => exact l.served_work id work

/-! ### The laws of a ledger -/

/-- What holds of a ledger in every state. -/
structure IsLawful (l : Ledger) : Prop where
  /-- The identifiers are 1, 2, 3, ... in the order of the list. -/
  ids : l.hypotheses.map Hypothesis.id = List.range' 1 l.hypotheses.length
  nextId : max l.nextId 1 = l.hypotheses.length + 1
  trimmed : ∀ h ∈ l.hypotheses, Text.trim h.explanation = h.explanation
  visible : ∀ h ∈ l.hypotheses, h.explanation ≠ ""
  distinct : (l.hypotheses.map Hypothesis.explanation).Nodup
  active : l.hypotheses.countP (·.status.isActive) ≤ 1
  rejection_iff : ∀ h ∈ l.hypotheses, h.rejection.isSome = true ↔ h.status = .rejected

theorem isLawful_empty : IsLawful empty :=
  ⟨rfl, rfl, nofun, nofun, .nil, Nat.zero_le 1, nofun⟩

theorem isLawful_blank : IsLawful blank :=
  ⟨rfl, rfl, nofun, nofun, .nil, Nat.zero_le 1, nofun⟩

namespace IsLawful

variable {l : Ledger} {before after : List Hypothesis} {h h' : Hypothesis}

theorem addOne {state : Ledger × Added} (hl : state.1.IsLawful) (explanation : String) :
    (addOne state explanation).1.IsLawful := by
  obtain ⟨l, added⟩ := state
  unfold Ledger.addOne
  simp only
  split_ifs with hdropped
  · exact hl
  obtain ⟨hvisible, hunknown⟩ : Text.trim explanation ≠ "" ∧
      ∀ x ∈ l.hypotheses, x.explanation ≠ Text.trim explanation := by
    simpa [knows, not_or] using hdropped
  have hnext : max l.nextId 1 = l.hypotheses.length + 1 := hl.nextId
  refine ⟨?_, ?_, ?_, ?_, ?_, ?_, ?_⟩
  · exact ids_append_singleton hl.ids hnext
  · simp only [List.length_append, List.length_singleton, hnext]
    omega
  · exact List.forall_mem_append.mpr ⟨hl.trimmed, by simp [Text.trim_trim]⟩
  · exact List.forall_mem_append.mpr ⟨hl.visible, by simpa using hvisible⟩
  · rw [List.map_append, List.nodup_append]
    refine ⟨hl.distinct, List.nodup_singleton _, ?_⟩
    rintro _ htext _ hnew rfl
    obtain ⟨x, hx, hsame⟩ := List.mem_map.mp htext
    exact hunknown x hx (hsame.trans (List.mem_singleton.mp hnew))
  · rw [List.countP_append]
    exact hl.active
  · exact List.forall_mem_append.mpr ⟨hl.rejection_iff, by simp⟩

theorem foldl_addOne (explanations : List String) :
    ∀ state : Ledger × Added, state.1.IsLawful →
      (explanations.foldl Ledger.addOne state).1.IsLawful := by
  induction explanations with
  | nil => exact fun state hl => hl
  | cons explanation rest ih =>
    intro state hl
    rw [List.foldl_cons]
    exact ih (Ledger.addOne state explanation) (hl.addOne explanation)

theorem replace (hl : l.IsLawful) (hsplit : l.hypotheses = before ++ h :: after) (hid : h'.id = h.id)
    (hexplanation : h'.explanation = h.explanation)
    (hactive : (before ++ h' :: after).countP (·.status.isActive) ≤ 1)
    (hrejection : h'.rejection.isSome = true ↔ h'.status = .rejected) :
    IsLawful { l with hypotheses := before ++ h' :: after } := by
  have hlength : (before ++ h' :: after).length = l.hypotheses.length := by
    simp [hsplit]
  have hmem : ∀ x ∈ before ++ h' :: after, x ∈ l.hypotheses ∨ x = h' := by
    intro x hx
    simp only [hsplit, List.mem_append, List.mem_cons] at hx ⊢
    tauto
  have hself : h ∈ l.hypotheses := by simp [hsplit]
  refine ⟨?_, ?_, ?_, ?_, ?_, hactive, ?_⟩
  · have hids := hl.ids
    simp only [hlength]
    rw [← hids, hsplit, List.map_append, List.map_append, List.map_cons, List.map_cons, hid]
  · simp only [hlength]
    exact hl.nextId
  · intro x hx
    rcases hmem x hx with hx | rfl
    · exact hl.trimmed x hx
    · rw [hexplanation]
      exact hl.trimmed h hself
  · intro x hx
    rcases hmem x hx with hx | rfl
    · exact hl.visible x hx
    · rw [hexplanation]
      exact hl.visible h hself
  · have hdistinct := hl.distinct
    rw [hsplit] at hdistinct
    simpa [hexplanation] using hdistinct
  · intro x hx
    rcases hmem x hx with hx | rfl
    · exact hl.rejection_iff x hx
    · exact hrejection

end IsLawful

theorem Work.rejection_result {work : Work} {h : Hypothesis}
    (hrejection : h.rejection.isSome = true ↔ h.status = .rejected)
    (hallowed : work.allows h.status = true) :
    (work.result h).rejection.isSome = true ↔ (work.result h).status = .rejected := by
  have hunrejected : h.status ≠ .rejected := by
    rintro hrejected
    rw [hrejected] at hallowed
    cases work <;> cases hallowed
  cases work with
  | attempt hunks => simpa [Work.result, Work.note, Work.target, hunrejected] using hrejection
  | reject reason => simp [Work.result, Work.note, Work.target]
  | accept => simpa [Work.result, Work.note, Work.target, hunrejected] using hrejection

theorem Work.isActive_of_allows {work : Work} {s : Status} (hallowed : work.allows s = true) :
    s.isActive = true := by
  cases work with
  | attempt hunks =>
    obtain rfl : s = .selected := of_decide_eq_true hallowed
    rfl
  | reject reason => exact hallowed
  | accept => exact hallowed

theorem Served.isLawful {l l' : Ledger} {request : Request} {answer : Except LedgerError Reply}
    (hs : l.Served request l' answer) (hl : l.IsLawful) : l'.IsLawful := by
  cases hs with
  | nothing => exact hl
  | added explanations => exact IsLawful.foldl_addOne explanations _ hl
  | busy => exact hl
  | unproposed => exact hl
  | selected hidle before h after hsplit hfirst hproposed =>
    -- Nothing was being worked on, so the selected hypothesis is the only one.
    have hself : h ∈ l.hypotheses := by simp [hsplit]
    have hnone : l.hypotheses.countP (·.status.isActive) = 0 := by
      rw [List.countP_eq_zero]
      simpa [active?] using hidle
    refine hl.replace hsplit rfl rfl ?_ ?_
    · rw [hsplit] at hnone
      simp only [List.countP_append, List.countP_cons] at hnone ⊢
      split <;> omega
    · have hrejection := hl.rejection_iff h hself
      rw [hproposed] at hrejection
      simpa using hrejection
  | unknown => exact hl
  | refused => exact hl
  | worked work before h after hsplit hfirst hallowed =>
    have hself : h ∈ l.hypotheses := by simp [hsplit]
    refine hl.replace hsplit ?_ ?_ ?_ (work.rejection_result (hl.rejection_iff h hself) hallowed)
    · cases work <;> rfl
    · cases work <;> rfl
    · -- The hypothesis was being worked on before, so it counts already.
      have hcount := hl.active
      have hactive := Work.isActive_of_allows hallowed
      rw [hsplit] at hcount
      simp only [List.countP_append, List.countP_cons, hactive, if_true] at hcount ⊢
      split <;> omega

/-! ### What a call changes -/

/-- What a call may do to the hypotheses of a ledger: add fresh ones behind them, or move one of them. -/
inductive Advances : List Hypothesis → List Hypothesis → Prop
  | extended (hypotheses new : List Hypothesis) (fresh : ∀ h ∈ new, h.IsFresh) :
    Advances hypotheses (hypotheses ++ new)
  | moved (before : List Hypothesis) {h h' : Hypothesis} (after : List Hypothesis) (id : h'.id = h.id)
      (explanation : h'.explanation = h.explanation) (move : h.status.LeadsTo h'.status) :
    Advances (before ++ h :: after) (before ++ h' :: after)

theorem Advances.refl (hypotheses : List Hypothesis) : Advances hypotheses hypotheses := by
  have hsame := Advances.extended hypotheses [] nofun
  rwa [List.append_nil] at hsame

theorem Advances.getElem?_eq {hypotheses hypotheses' : List Hypothesis}
    (ha : Advances hypotheses hypotheses') {i : Nat} {h : Hypothesis} (hh : hypotheses[i]? = some h)
    (hsettled : h.status = .rejected ∨ h.status = .accepted) : hypotheses'[i]? = some h := by
  cases ha with
  | extended new =>
    have hi := (List.getElem?_eq_some_iff.mp hh).choose
    rw [List.getElem?_append_left hi, hh]
  | @moved before x x' after _ _ hmove =>
    by_cases hi : i = before.length
    · have hx : x = h := by simpa [hi] using hh
      exact absurd (hx ▸ hmove) (Status.not_leadsTo hsettled)
    · rw [← hh, List.getElem?_append, List.getElem?_append]
      split_ifs with hbefore
      · rfl
      · obtain ⟨k, hk⟩ := Nat.exists_eq_succ_of_ne_zero (n := i - before.length) (by omega)
        rw [hk, List.getElem?_cons_succ, List.getElem?_cons_succ]

theorem exists_addOne (state : Ledger × Added) (explanation : String) :
    ∃ new : List Hypothesis, (∀ h ∈ new, h.IsFresh) ∧
      (addOne state explanation).1.hypotheses = state.1.hypotheses ++ new := by
  unfold addOne
  simp only
  split_ifs
  · exact ⟨[], nofun, (List.append_nil _).symm⟩
  · refine ⟨[_], ?_, rfl⟩
    exact List.forall_mem_singleton.mpr ⟨rfl, rfl, rfl⟩

theorem exists_foldl_addOne (explanations : List String) :
    ∀ state : Ledger × Added, ∃ new : List Hypothesis, (∀ h ∈ new, h.IsFresh) ∧
      (explanations.foldl addOne state).1.hypotheses = state.1.hypotheses ++ new := by
  induction explanations with
  | nil => exact fun state => ⟨[], nofun, (List.append_nil _).symm⟩
  | cons explanation rest ih =>
    intro state
    obtain ⟨first, hfirst, hone⟩ := exists_addOne state explanation
    obtain ⟨more, hmore, hrest⟩ := ih (addOne state explanation)
    refine ⟨first ++ more, List.forall_mem_append.mpr ⟨hfirst, hmore⟩, ?_⟩
    rw [List.foldl_cons, hrest, hone, List.append_assoc]

theorem Work.leadsTo_result {work : Work} {h : Hypothesis} (hallowed : work.allows h.status = true) :
    h.status.LeadsTo (work.result h).status := by
  cases work with
  | attempt hunks =>
    have hselected : h.status = .selected := of_decide_eq_true hallowed
    rw [hselected]
    exact .attempted
  | reject reason => exact .rejected hallowed
  | accept => exact .accepted hallowed

theorem Served.advances {l l' : Ledger} {request : Request} {answer : Except LedgerError Reply}
    (hs : l.Served request l' answer) : Advances l.hypotheses l'.hypotheses := by
  cases hs with
  | nothing => exact .refl _
  | added explanations =>
    obtain ⟨new, hfresh, hnew⟩ := exists_foldl_addOne explanations (l, ⟨[], 0⟩)
    rw [hnew]
    exact .extended _ _ hfresh
  | busy => exact .refl _
  | unproposed => exact .refl _
  | selected hidle before h after hsplit hfirst hproposed =>
    rw [hsplit]
    refine .moved before after rfl rfl ?_
    rw [hproposed]
    exact .selected
  | unknown => exact .refl _
  | refused => exact .refl _
  | worked work before h after hsplit hfirst hallowed =>
    rw [hsplit]
    refine .moved before after ?_ ?_ (Work.leadsTo_result hallowed)
    · cases work <;> rfl
    · cases work <;> rfl

theorem Served.eq_of_error {l l' : Ledger} {request : Request} {e : LedgerError}
    (hs : l.Served request l' (.error e)) : l' = l := by
  cases hs <;> rfl

/-! ### Calls one after the other -/

theorem serveAll_cons (l : Ledger) (request : Request) (requests : List Request) :
    l.serveAll (request :: requests) = (l.serve request).1.serveAll requests := rfl

/-- What every call keeps is kept by calls one after the other. -/
theorem serveAll_of_kept {P : Ledger → Prop} (hkept : ∀ l request, P l → P (l.serve request).1)
    (requests : List Request) : ∀ l : Ledger, P l → P (l.serveAll requests) := by
  induction requests with
  | nil => exact fun l hl => hl
  | cons request rest ih => exact fun l hl => ih _ (hkept l request hl)

theorem IsLawful.serveAll (requests : List Request) :
    ∀ l : Ledger, l.IsLawful → (l.serveAll requests).IsLawful :=
  serveAll_of_kept (fun l request => (l.served request).isLawful) requests

theorem getElem?_serveAll (requests : List Request) {i : Nat} {h : Hypothesis}
    (hsettled : h.status = .rejected ∨ h.status = .accepted) :
    ∀ l : Ledger, l.hypotheses[i]? = some h → (l.serveAll requests).hypotheses[i]? = some h :=
  serveAll_of_kept (fun l request hh => (l.served request).advances.getElem?_eq hh hsettled) requests

/-- A state that calls lead to from an empty ledger. -/
def IsReachable (l : Ledger) : Prop :=
  ∃ requests, l = empty.serveAll requests ∨ l = blank.serveAll requests

/-- In every state that calls lead to: the laws hold; a call that is refused changes nothing; one that
is not adds fresh hypotheses or moves one along its statuses; and whatever calls follow, a hypothesis
that was rejected or accepted stays so. -/
theorem ledger_lawful {l : Ledger} (hl : l.IsReachable) :
    l.IsLawful ∧
    (∀ request e, (l.serve request).2 = .error e → (l.serve request).1 = l) ∧
    (∀ request reply, (l.serve request).2 = .ok reply →
      Advances l.hypotheses (l.serve request).1.hypotheses) ∧
    ∀ (requests : List Request) (i : Nat) (h : Hypothesis), l.hypotheses[i]? = some h →
      (h.status = .rejected ∨ h.status = .accepted) →
        (l.serveAll requests).hypotheses[i]? = some h := by
  refine ⟨?_, ?_, ?_, ?_⟩
  · obtain ⟨requests, rfl | rfl⟩ := hl
    · exact isLawful_empty.serveAll requests
    · exact isLawful_blank.serveAll requests
  · intro request e herror
    have hserved := l.served request
    rw [herror] at hserved
    exact hserved.eq_of_error
  · exact fun request _ _ => (l.served request).advances
  · exact fun requests i h hh hsettled => getElem?_serveAll requests hsettled l hh

/-- Two hypotheses are tried; a third one is registered while the second one is being worked on, and a
late rejection is refused. -/
def triedTwice : List Request :=
  [.add [" a ", "b", "a", ""], .selectNext, .work 1 (.attempt []), .work 1 (.reject "no"), .selectNext,
    .add ["c", "b "], .work 2 .accept, .work 2 (.reject "late")]

theorem ledger_lawful_triedTwice :
    (empty.serveAll triedTwice).IsReachable ∧
    (empty.serveAll triedTwice).hypotheses =
      [⟨1, "a", .rejected, [], some "no"⟩, ⟨2, "b", .accepted, [], none⟩,
        ⟨3, "c", .proposed, [], none⟩] ∧
    (empty.serveAll triedTwice).IsLawful ∧
    ∀ requests, ((empty.serveAll triedTwice).serveAll requests).hypotheses[1]?
      = some ⟨2, "b", .accepted, [], none⟩ := by
  have hreachable : (empty.serveAll triedTwice).IsReachable := ⟨triedTwice, Or.inl rfl⟩
  have hhypotheses : (empty.serveAll triedTwice).hypotheses =
      [⟨1, "a", .rejected, [], some "no"⟩, ⟨2, "b", .accepted, [], none⟩,
        ⟨3, "c", .proposed, [], none⟩] := by
    decide +kernel
  obtain ⟨hlaws, -, -, hsettled⟩ := ledger_lawful hreachable
  refine ⟨hreachable, hhypotheses, hlaws, fun requests => hsettled requests 1 _ ?_ (Or.inr rfl)⟩
  rw [hhypotheses]
  rfl

end Ledger

end TextRepair
