import TextRepair.Ledger
import TextRepair.Proofs.Distinct
import Mathlib.Data.List.Basic
import Mathlib.Data.List.Induction
import Mathlib.Data.List.Nodup

/-!
# Moves in the ledger of a cycle

A cycle takes the hypotheses of its ledger in order: those before some place are done with, those from
it on are still to come (`Ledger.Pending`). The lemmas say what each move does to such a ledger, and
that a ledger begins in this way: the explanations that `Ledger.add` registers in an empty one are
all still to come (`pending_of_add`). They are numbered from 1 on in the order of their proposal
(`Registered`).
-/

namespace TextRepair

/-- A hypothesis that nothing has happened to since it was registered. -/
structure Hypothesis.IsFresh (h : Hypothesis) : Prop where
  status : h.status = .proposed
  hunks : h.hunks = []
  rejection : h.rejection = none

namespace Ledger

/-! ### The first hypothesis that a move is about -/

theorem find?_append_cons {p : Hypothesis → Bool} {done rest : List Hypothesis} {h : Hypothesis}
    (hdone : ∀ x ∈ done, p x = false) (hp : p h = true) :
    (done ++ h :: rest).find? p = some h := by
  have hnone : done.find? p = none := List.find?_eq_none.mpr fun x hx => by simp [hdone x hx]
  rw [List.find?_append, hnone, Option.none_or, List.find?_cons_of_pos hp]

theorem findIdx?_append_cons {p : Hypothesis → Bool} {done rest : List Hypothesis} {h : Hypothesis}
    (hdone : ∀ x ∈ done, p x = false) (hp : p h = true) :
    (done ++ h :: rest).findIdx? p = some done.length := by
  have hnone : done.findIdx? p = none := List.findIdx?_eq_none_iff.mpr hdone
  rw [List.findIdx?_append, hnone, Option.none_or, List.findIdx?_cons, if_pos hp, Option.map_some,
    Nat.zero_add]

theorem updateFirst_append_cons {p : Hypothesis → Bool} {f : Hypothesis → Hypothesis}
    {done rest : List Hypothesis} {h : Hypothesis} (hdone : ∀ x ∈ done, p x = false)
    (hp : p h = true) : updateFirst p f (done ++ h :: rest) = done ++ f h :: rest := by
  induction done with
  | nil => rw [List.nil_append, updateFirst, if_pos hp, List.nil_append]
  | cons x done ih =>
    have hx : ¬p x = true := by simp [hdone x List.mem_cons_self]
    rw [List.cons_append, updateFirst, if_neg hx, ih fun y hy => hdone y (List.mem_cons_of_mem _ hy),
      List.cons_append]

theorem move_eq_ok {l : Ledger} {done rest : List Hypothesis} {h : Hypothesis} (target : Status)
    {allowed : Status → Bool} (f : Hypothesis → Hypothesis) (hl : l.hypotheses = done ++ h :: rest)
    (hdone : ∀ x ∈ done, x.id ≠ h.id) (hallowed : allowed h.status = true) :
    l.move h.id target allowed f
      = .ok { l with hypotheses := done ++ { f h with status := target } :: rest } := by
  have hother : ∀ x ∈ done, decide (x.id = h.id) = false :=
    fun x hx => decide_eq_false (hdone x hx)
  have hself : decide (h.id = h.id) = true := decide_eq_true rfl
  rw [move, get?, hl, find?_append_cons hother hself]
  simp only [hallowed, if_true]
  rw [updateFirst_append_cons hother hself]

theorem selectNext_eq_ok {l : Ledger} {done rest : List Hypothesis} {h : Hypothesis}
    (hidle : l.active? = none) (hl : l.hypotheses = done ++ h :: rest)
    (hdone : ∀ x ∈ done, x.status ≠ .proposed) (hproposed : h.status = .proposed) :
    l.selectNext = .ok (some ({ h with status := .selected },
      { l with hypotheses := done ++ { h with status := .selected } :: rest })) := by
  have hother : ∀ x ∈ done, decide (x.status = .proposed) = false :=
    fun x hx => decide_eq_false (hdone x hx)
  have hself : decide (h.status = .proposed) = true := decide_eq_true hproposed
  rw [selectNext, hidle]
  simp only [hl]
  rw [find?_append_cons hother hself, updateFirst_append_cons hother hself]

theorem isExhausted_iff {l : Ledger} :
    l.isExhausted = true ↔ l.hypotheses ≠ [] ∧ ∀ h ∈ l.hypotheses, h.status = .rejected := by
  rw [isExhausted, Bool.and_eq_true, List.all_eq_true]
  simp

/-! ### A ledger under way -/

/-- The hypotheses of `done` have been rejected, those of `rest` are still to come. -/
structure Pending (l : Ledger) (done rest : List Hypothesis) : Prop where
  hypotheses : l.hypotheses = done ++ rest
  distinct : ((done ++ rest).map Hypothesis.id).Nodup
  rejected : ∀ h ∈ done, h.status = .rejected
  fresh : ∀ h ∈ rest, h.IsFresh

namespace Pending

variable {l : Ledger} {done rest : List Hypothesis}

theorem active?_eq_none (hl : l.Pending done rest) : l.active? = none := by
  rw [active?, hl.hypotheses, List.find?_eq_none]
  intro h hh
  rcases List.mem_append.mp hh with hh | hh
  · simp [hl.rejected h hh, Status.isActive]
  · simp [(hl.fresh h hh).status, Status.isActive]

theorem id_ne {h : Hypothesis} (hl : l.Pending done (h :: rest)) : ∀ x ∈ done, x.id ≠ h.id := by
  have hdistinct := hl.distinct
  rw [List.map_append, List.nodup_append] at hdistinct
  exact fun x hx => hdistinct.2.2 _ (List.mem_map_of_mem hx) _ (by simp)

theorem selectNext_cons {h : Hypothesis} (hl : l.Pending done (h :: rest)) :
    l.selectNext = .ok (some ({ h with status := .selected },
      { l with hypotheses := done ++ { h with status := .selected } :: rest })) := by
  refine selectNext_eq_ok hl.active?_eq_none hl.hypotheses ?_ (hl.fresh h List.mem_cons_self).status
  intro x hx
  rw [hl.rejected x hx]
  exact nofun

theorem selectNext_nil (hl : l.Pending done []) : l.selectNext = .ok none := by
  rw [selectNext, hl.active?_eq_none]
  simp only [hl.hypotheses, List.append_nil]
  rw [List.find?_eq_none.mpr]
  intro h hh
  simp [hl.rejected h hh]

theorem reject {h : Hypothesis} (hl : l.Pending done (h :: rest)) (h' : Hypothesis)
    (hid : h'.id = h.id) (hstatus : h'.status = .rejected) {l' : Ledger}
    (hl' : l'.hypotheses = done ++ h' :: rest) :
    l'.Pending (done ++ [h']) rest := by
  refine ⟨by rw [hl', List.append_assoc, List.singleton_append], ?_, ?_, ?_⟩
  · have hdistinct := hl.distinct
    simp only [List.map_append, List.map_cons] at hdistinct
    simpa [hid] using hdistinct
  · intro x hx
    rcases List.mem_append.mp hx with hx | hx
    · exact hl.rejected x hx
    · rw [List.mem_singleton.mp hx, hstatus]
  · exact fun x hx => hl.fresh x (List.mem_cons_of_mem _ hx)

end Pending

/-! ### The registered explanations -/

/-- The explanations that are kept: without outer blanks, not blank, and each one once. -/
def usable (explanations : List String) : List String :=
  ((explanations.map Text.trim).filter fun text => !text.isEmpty).eraseDups

theorem usable_append_of_blank (explanations : List String) {explanation : String}
    (hblank : (Text.trim explanation).isEmpty = true) :
    usable (explanations ++ [explanation]) = usable explanations := by
  unfold usable
  rw [List.map_append, List.filter_append, List.map_singleton, List.filter_singleton, hblank]
  exact congrArg List.eraseDups (List.append_nil _)

theorem usable_append_of_visible (explanations : List String) {explanation : String}
    (hvisible : (Text.trim explanation).isEmpty = false) :
    usable (explanations ++ [explanation]) =
      if Text.trim explanation ∈ usable explanations then usable explanations
      else usable explanations ++ [Text.trim explanation] := by
  unfold usable
  rw [List.map_append, List.filter_append, List.map_singleton, List.filter_singleton, hvisible]
  generalize (explanations.map Text.trim).filter (fun text => !text.isEmpty) = texts
  rw [Bool.not_false, cond_true]
  split_ifs with hknown <;> rw [List.mem_eraseDups] at hknown
  · exact eraseDups_append_of_mem hknown
  · exact eraseDups_append_of_notMem hknown

theorem nodup_usable (explanations : List String) : (usable explanations).Nodup :=
  nodup_eraseDups _

theorem ids_append_singleton {hypotheses : List Hypothesis} {h : Hypothesis}
    (hids : hypotheses.map Hypothesis.id = List.range' 1 hypotheses.length)
    (hid : h.id = hypotheses.length + 1) :
    (hypotheses ++ [h]).map Hypothesis.id = List.range' 1 (hypotheses ++ [h]).length := by
  rw [List.map_append, hids, List.map_singleton, hid, List.length_append, List.length_singleton,
    List.range'_concat, Nat.one_mul, Nat.add_comm 1]

/-- What holds of a ledger to which these explanations have been added, and nothing else. -/
structure Registered (explanations : List String) (state : Ledger × Added) : Prop where
  added : state.2.ids = state.1.hypotheses.map Hypothesis.id
  ids : state.1.hypotheses.map Hypothesis.id = List.range' 1 state.1.hypotheses.length
  nextId : state.1.nextId = state.1.hypotheses.length + 1
  explanations : state.1.hypotheses.map Hypothesis.explanation = usable explanations
  fresh : ∀ h ∈ state.1.hypotheses, h.IsFresh

theorem registered_empty : Registered [] (empty, ⟨[], 0⟩) :=
  ⟨rfl, rfl, rfl, rfl, nofun⟩

theorem Registered.distinct {explanations : List String} {state : Ledger × Added}
    (h : Registered explanations state) : (state.1.hypotheses.map Hypothesis.id).Nodup := by
  rw [h.ids]
  exact List.nodup_range'

theorem Registered.knows_iff {explanations : List String} {state : Ledger × Added}
    (h : Registered explanations state) (text : String) :
    state.1.knows text = true ↔ text ∈ usable explanations := by
  rw [← h.explanations, knows, List.any_eq_true, List.mem_map]
  simp only [decide_eq_true_eq]

theorem Registered.addOne {explanations : List String} {state : Ledger × Added}
    (h : Registered explanations state) (explanation : String) :
    Registered (explanations ++ [explanation]) (addOne state explanation) := by
  have hknows := h.knows_iff (Text.trim explanation)
  obtain ⟨l, added⟩ := state
  unfold Ledger.addOne
  simp only
  by_cases hblank : (Text.trim explanation).isEmpty = true
  · rw [hblank, Bool.true_or, if_pos rfl]
    refine ⟨h.added, h.ids, h.nextId, ?_, h.fresh⟩
    rw [usable_append_of_blank _ hblank]
    exact h.explanations
  rw [Bool.not_eq_true] at hblank
  rw [hblank, Bool.false_or]
  by_cases hknown : l.knows (Text.trim explanation) = true
  · rw [if_pos hknown]
    refine ⟨h.added, h.ids, h.nextId, ?_, h.fresh⟩
    rw [usable_append_of_visible _ hblank, if_pos (hknows.mp hknown)]
    exact h.explanations
  · rw [if_neg hknown]
    have hadded : added.ids = l.hypotheses.map Hypothesis.id := h.added
    have hids : l.hypotheses.map Hypothesis.id = List.range' 1 l.hypotheses.length := h.ids
    have hnext : max l.nextId 1 = l.hypotheses.length + 1 := by
      have hnextId : l.nextId = l.hypotheses.length + 1 := h.nextId
      omega
    refine ⟨?_, ?_, ?_, ?_, ?_⟩
    · simp only [List.map_append, List.map_cons, List.map_nil, hadded]
    · exact ids_append_singleton hids hnext
    · simp only [List.length_append, List.length_singleton, hnext]
    · rw [usable_append_of_visible _ hblank, if_neg (mt hknows.mpr hknown), List.map_append]
      exact congrArg (· ++ [Text.trim explanation]) h.explanations
    · intro x hx
      rcases List.mem_append.mp hx with hx | hx
      · exact h.fresh x hx
      · rw [List.mem_singleton.mp hx]
        exact ⟨rfl, rfl, rfl⟩

theorem Registered.foldl_addOne (more : List String) :
    ∀ (explanations : List String) (state : Ledger × Added), Registered explanations state →
      Registered (explanations ++ more) (more.foldl Ledger.addOne state) := by
  induction more with
  | nil =>
    intro explanations state h
    rw [List.append_nil]
    exact h
  | cons explanation more ih =>
    intro explanations state h
    rw [List.foldl_cons, List.append_cons]
    exact ih _ _ (h.addOne explanation)

theorem registered_of_add {explanations : List String} {l : Ledger} {added : Added}
    (h : empty.add explanations = .ok (l, added)) : Registered explanations (l, added) := by
  unfold add at h
  split at h
  · cases h
  · rw [← Except.ok.inj h]
    exact Registered.foldl_addOne explanations [] _ registered_empty

theorem pending_of_add {explanations : List String} {l : Ledger} {added : Added}
    (h : empty.add explanations = .ok (l, added)) : l.Pending [] l.hypotheses where
  hypotheses := rfl
  distinct := (registered_of_add h).distinct
  rejected := nofun
  fresh := (registered_of_add h).fresh

end Ledger

end TextRepair
