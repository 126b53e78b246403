import TextRepair.Apply
import Mathlib.Tactic.SplitIfs

/-!
# Refused hunks

Hunks are refused for two reasons: they are too many, or one of them is malformed, and then the first
such hunk is named (`Options.Refuses`). One of the two is the case just when the hunks are refused, whatever
the document (`Options.checkHunks_cases`). A hunk is malformed wherever it stands (`Hunk.check_eq_ok_iff`);
only its fault says where that is. What is proved of applications reaches the checks through these names.
-/

namespace TextRepair

/-! ### One hunk -/

theorem Hunk.check_eq_ok_iff (h : Hunk) (index : Nat) :
    h.check index = .ok () ↔
      (∀ line ∈ h.anchor ++ h.replacement, '\n' ∉ line.toList) ∧
      (h.anchor = [] → h.insertionPoint.isSome) ∧
      (h.anchor ≠ [] → ∃ line ∈ h.anchor, Text.isBlankText line = false) := by
  have hfeed : ((h.anchor ++ h.replacement).any fun line => line.toList.contains '\n') = false ↔
      ∀ line ∈ h.anchor ++ h.replacement, '\n' ∉ line.toList := by
    rw [List.any_eq_false]
    simp
  have hblank : h.anchor.all Text.isBlankText = false ↔
      ∃ line ∈ h.anchor, Text.isBlankText line = false := by simp
  rw [← hfeed, ← hblank, ← List.isEmpty_iff, Ne, ← List.isEmpty_iff, check]
  cases (h.anchor ++ h.replacement).any fun line => line.toList.contains '\n' <;>
    cases h.anchor.isEmpty <;> cases h.insertionPoint <;> cases h.anchor.all Text.isBlankText <;> simp

theorem Hunk.check_eq_ok_of {h : Hunk} {index : Nat} (hcheck : h.check index = .ok ()) (index' : Nat) :
    h.check index' = .ok () :=
  (h.check_eq_ok_iff index').mpr ((h.check_eq_ok_iff index).mp hcheck)

theorem Hunk.check_ne_ok_of_nowhere {h : Hunk} (hanchor : h.anchor = []) (hpoint : h.insertionPoint = none)
    (index : Nat) : h.check index ≠ .ok () := by
  intro hcheck
  have hsome := ((h.check_eq_ok_iff index).mp hcheck).2.1 hanchor
  rw [hpoint] at hsome
  cases hsome

theorem Hunk.hunk_of_check_eq_error {h : Hunk} {index : Nat} {e : MalformedEdit}
    (hcheck : h.check index = .error e) : e.hunk = index := by
  unfold check at hcheck
  split_ifs at hcheck <;> exact (Except.error.inj hcheck) ▸ rfl

/-! ### All hunks -/

theorem forM_check_cases (hunks : List Hunk) (index : Nat) :
    (((hunks.zipIdx index).forM fun (h, i) => h.check i) = .ok () ∧
      ∀ h ∈ hunks, ∀ i, h.check i = .ok ()) ∨
    ∃ i h e, ((hunks.zipIdx index).forM fun (h, i) => h.check i) = .error e ∧
      hunks[i]? = some h ∧ h.check (index + i) = .error e ∧
      ∀ g ∈ hunks.take i, ∀ j, g.check j = .ok () := by
  induction hunks generalizing index with
  | nil => exact .inl ⟨rfl, by simp⟩
  | cons h rest ih =>
    rw [List.zipIdx_cons]
    change ((h.check index >>= fun _ => (rest.zipIdx (index + 1)).forM _) = _ ∧ _) ∨
      ∃ i g e, (h.check index >>= fun _ => (rest.zipIdx (index + 1)).forM _) = _ ∧ _
    cases hhunk : h.check index with
    | error e => exact .inr ⟨0, h, e, rfl, rfl, hhunk, by simp⟩
    | ok u =>
      rcases ih (index + 1) with ⟨hall, hwell⟩ | ⟨i, g, e, hall, hg, hfault, hfirst⟩
      · exact .inl ⟨hall, List.forall_mem_cons.mpr ⟨Hunk.check_eq_ok_of hhunk, hwell⟩⟩
      · refine .inr ⟨i + 1, g, e, hall, hg, ?_, ?_⟩
        · rwa [Nat.add_right_comm, Nat.add_assoc] at hfault
        · rw [List.take_succ_cons]
          exact List.forall_mem_cons.mpr ⟨Hunk.check_eq_ok_of hhunk, hfirst⟩

variable {S : Type}

namespace Options

/-- Whether an edit has more hunks than allowed. -/
def Exceeds (o : Options S) (hunks : List Hunk) : Prop :=
  ∃ limit, o.maxHunks = some limit ∧ limit < hunks.length

/-- The faults for which hunks are refused: their number, or else the fault of the first malformed
hunk. -/
inductive Refuses (o : Options S) (hunks : List Hunk) : MalformedEdit → Prop
  | tooMany {limit : Nat} (hlimit : o.maxHunks = some limit) (hlt : limit < hunks.length) :
    Refuses o hunks (.tooMany hunks.length limit)
  | malformed {index : Nat} {h : Hunk} {e : MalformedEdit} (hfits : ¬o.Exceeds hunks)
    (hhunk : hunks[index]? = some h) (hfault : h.check index = .error e) (hname : e.hunk = index)
    (hfirst : ∀ g ∈ hunks.take index, ∀ i, g.check i = .ok ()) : Refuses o hunks e

theorem Refuses.cause {o : Options S} {hunks : List Hunk} {e : MalformedEdit}
    (hrefuses : o.Refuses hunks e) :
    o.Exceeds hunks ∨ ∃ h ∈ hunks, ∃ index e, h.check index = .error e := by
  cases hrefuses with
  | tooMany hlimit hlt => exact .inl ⟨_, hlimit, hlt⟩
  | malformed hfits hhunk hfault hname hfirst =>
    exact .inr ⟨_, List.mem_of_getElem? hhunk, _, _, hfault⟩

theorem checkHunks_cases (o : Options S) (hunks : List Hunk) :
    (o.checkHunks hunks = .ok () ∧ ¬o.Exceeds hunks ∧ ∀ h ∈ hunks, ∀ i, h.check i = .ok ()) ∨
    ∃ e, o.checkHunks hunks = .error e ∧ o.Refuses hunks e := by
  by_cases hexceeds : o.Exceeds hunks
  · obtain ⟨limit, hlimit, hlt⟩ := hexceeds
    refine .inr ⟨_, ?_, .tooMany hlimit hlt⟩
    unfold checkHunks
    rw [hlimit]
    simp only [if_pos hlt]
    rfl
  · have hcheck : o.checkHunks hunks = hunks.zipIdx.forM fun (h, index) => h.check index := by
      unfold checkHunks
      cases hlimit : o.maxHunks with
      | none => rfl
      | some limit =>
        simp only [if_neg fun hlt => hexceeds ⟨limit, hlimit, hlt⟩]
    rw [hcheck]
    rcases forM_check_cases hunks 0 with ⟨hall, hwell⟩ | ⟨i, h, e, hall, hh, hfault, hfirst⟩
    · exact .inl ⟨hall, hexceeds, hwell⟩
    · rw [Nat.zero_add] at hfault
      exact .inr ⟨e, hall, .malformed hexceeds hh hfault (Hunk.hunk_of_check_eq_error hfault) hfirst⟩

theorem checkHunks_eq_ok_iff (o : Options S) (hunks : List Hunk) :
    o.checkHunks hunks = .ok () ↔ ¬o.Exceeds hunks ∧ ∀ h ∈ hunks, ∀ i, h.check i = .ok () := by
  rcases o.checkHunks_cases hunks with ⟨hcheck, hwell⟩ | ⟨e, hcheck, hrefuses⟩
  · exact iff_of_true hcheck hwell
  · rw [hcheck]
    refine iff_of_false nofun ?_
    rintro ⟨hfits, hwell⟩
    rcases hrefuses.cause with hexceeds | ⟨h, hh, index, e', hfault⟩
    · exact hfits hexceeds
    · exact absurd ((hwell h hh index).symm.trans hfault) nofun

theorem checkHunks_append {o : Options S} (hlimit : o.maxHunks = none) (first rest : List Hunk) :
    o.checkHunks (first ++ rest) = .ok () ↔ o.checkHunks first = .ok () ∧ o.checkHunks rest = .ok () := by
  have hfits (hunks : List Hunk) : ¬o.Exceeds hunks := by
    rintro ⟨limit, hmax, -⟩
    rw [hlimit] at hmax
    cases hmax
  simp only [checkHunks_eq_ok_iff, hfits, not_false_eq_true, true_and, List.forall_mem_append]

end Options

end TextRepair
