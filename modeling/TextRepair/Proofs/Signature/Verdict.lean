import TextRepair.Signature
import Mathlib.Data.List.Induction
import Mathlib.Data.List.Perm.Subperm

/-!
# Verdicts compare multisets

A verdict looks at the blocking diagnostics of both lists as multisets of fingerprints. Main statement,
`judge_compares_copies`: the target persists if it has as many copies as before, or one if it had none;
otherwise all is well if no fingerprint has more copies than before; and otherwise the new error is the first
blocking diagnostic at which the copies of its fingerprint, counted from the start of the list up to it,
outnumber those before (`IsNewAt`).

The search walks the list once and keeps what it has passed. It answers for a longer list what it answers for
the list without its last entry, and looks at that entry only if there is nothing new before it
(`firstNew?_append_singleton`); so the statements about it are by induction from the right.
-/

namespace TextRepair

namespace Signature

/-! ### Copies -/

theorem copies_eq_count (signatures : List Signature) (f : String) :
    copies signatures f = ((blocking signatures).map fingerprint).count f := by
  rw [copies, List.count, List.countP_map]
  rfl

theorem copies_append (a b : List Signature) (f : String) : copies (a ++ b) f = copies a f + copies b f := by
  rw [copies, blocking, List.filter_append, List.countP_append]
  rfl

theorem copies_singleton (s : Signature) (f : String) :
    copies [s] f = if s.isBlocking = true ∧ s.fingerprint = f then 1 else 0 := by
  cases hs : s.isBlocking <;> by_cases hf : s.fingerprint = f <;> simp [copies, blocking, hs, hf]

theorem copies_perm {a b : List Signature} (h : a.Perm b) (f : String) : copies a f = copies b f :=
  (h.filter _).countP_eq _

theorem blocking_blocking (signatures : List Signature) : blocking (blocking signatures) = blocking signatures := by
  simp [blocking]

theorem copies_blocking (signatures : List Signature) (f : String) :
    copies (blocking signatures) f = copies signatures f := by
  rw [copies, blocking_blocking]
  rfl

end Signature

open Signature

/-! ### The first new diagnostic -/

/-- A blocking diagnostic that, together with those of its fingerprint among the earlier ones, outnumbers
those in `baseline`. -/
def IsNew (baseline earlier : List Signature) (s : Signature) : Prop :=
  s.isBlocking = true ∧ copies baseline s.fingerprint < copies (earlier ++ [s]) s.fingerprint

instance (baseline earlier : List Signature) (s : Signature) : Decidable (IsNew baseline earlier s) :=
  inferInstanceAs (Decidable (_ ∧ _))

/-- At place `i` of a list stands a diagnostic that is new there. -/
def IsNewAt (baseline signatures : List Signature) (i : Nat) (s : Signature) : Prop :=
  signatures[i]? = some s ∧ IsNew baseline (signatures.take i) s

section FirstNew

variable {baseline : List Signature} (signatures : List Signature) (s x : Signature) {i : Nat}

theorem IsNewAt.lt_length {signatures : List Signature} {s : Signature}
    (h : IsNewAt baseline signatures i s) : i < signatures.length :=
  (List.getElem?_eq_some_iff.mp h.1).choose

theorem isNewAt_append_of_lt (hi : i < signatures.length) :
    IsNewAt baseline (signatures ++ [s]) i x ↔ IsNewAt baseline signatures i x := by
  rw [IsNewAt, IsNewAt, List.getElem?_append_left hi,
    List.take_append_of_le_length (Nat.le_of_lt hi)]

theorem isNewAt_append_length :
    IsNewAt baseline (signatures ++ [s]) signatures.length x ↔ IsNew baseline signatures s ∧ s = x := by
  rw [IsNewAt, List.getElem?_concat_length, List.take_left, Option.some_inj, and_comm]
  exact and_congr_left fun h => by rw [h]

theorem forall_not_isNewAt_append :
    (∀ i x, ¬IsNewAt baseline (signatures ++ [s]) i x) ↔
      (∀ i x, ¬IsNewAt baseline signatures i x) ∧ ¬IsNew baseline signatures s := by
  constructor
  · refine fun hnone => ⟨fun i x hx => ?_, fun hs => ?_⟩
    · exact hnone i x ((isNewAt_append_of_lt signatures s x hx.lt_length).mpr hx)
    · exact hnone _ s ((isNewAt_append_length signatures s s).mpr ⟨hs, rfl⟩)
  · rintro ⟨hnone, hs⟩ i x hx
    have hlength := hx.lt_length
    rw [List.length_append, List.length_singleton] at hlength
    rcases Nat.lt_succ_iff_lt_or_eq.mp hlength with hi | rfl
    · exact hnone i x ((isNewAt_append_of_lt signatures s x hi).mp hx)
    · exact hs ((isNewAt_append_length signatures s x).mp hx).1

theorem forall_copies_append_le :
    (∀ f, copies (signatures ++ [s]) f ≤ copies baseline f) ↔
      (∀ f, copies signatures f ≤ copies baseline f) ∧ ¬IsNew baseline signatures s := by
  constructor
  · refine fun hle => ⟨fun f => ?_, fun hs => Nat.not_lt.mpr (hle _) hs.2⟩
    have hf := hle f
    rw [copies_append] at hf
    omega
  · rintro ⟨hle, hs⟩ f
    rw [IsNew, not_and, Nat.not_lt] at hs
    by_cases hf : s.isBlocking = true ∧ s.fingerprint = f
    · rw [← hf.2]
      exact hs hf.1
    · rw [copies_append, copies_singleton, if_neg hf]
      exact hle f

theorem firstNew?_append (seen a b : List Signature) :
    firstNew? baseline seen (a ++ b)
      = (firstNew? baseline seen a).or (firstNew? baseline (a.reverse ++ seen) b) := by
  induction a generalizing seen with
  | nil => rfl
  | cons s a ih =>
    rw [List.cons_append, firstNew?, firstNew?]
    split_ifs
    · rfl
    · rw [ih, List.reverse_cons, List.append_assoc]
      rfl

theorem firstNew?_append_singleton :
    firstNew? baseline [] (blocking (signatures ++ [s])) =
      (firstNew? baseline [] (blocking signatures)).or
        (if IsNew baseline signatures s then some s else none) := by
  have hcopies : copies (s :: ((blocking signatures).reverse ++ [])) s.fingerprint
      = copies (signatures ++ [s]) s.fingerprint := by
    rw [← List.singleton_append, copies_append, List.append_nil, copies_perm (List.reverse_perm _),
      copies_blocking, Nat.add_comm, ← copies_append]
  rw [blocking, List.filter_append]
  change firstNew? baseline [] (blocking signatures ++ blocking [s]) = _
  rw [firstNew?_append]
  congr 1
  by_cases hs : s.isBlocking = true
  · have hone : blocking [s] = [s] := by simp [blocking, hs]
    rw [hone, firstNew?, hcopies]
    simp [IsNew, hs, firstNew?]
  · have hnone : blocking [s] = [] := by simp [blocking, hs]
    rw [hnone]
    simp [IsNew, hs, firstNew?]

theorem firstNew?_eq_none_iff :
    firstNew? baseline [] (blocking signatures) = none ↔ ∀ i x, ¬IsNewAt baseline signatures i x := by
  induction signatures using List.reverseRecOn with
  | nil => simp [blocking, firstNew?, IsNewAt]
  | append_singleton signatures s ih =>
    rw [firstNew?_append_singleton, Option.or_eq_none_iff, ih, forall_not_isNewAt_append]
    simp

theorem firstNew?_eq_none_iff_le :
    firstNew? baseline [] (blocking signatures) = none ↔
      ∀ f, copies signatures f ≤ copies baseline f := by
  induction signatures using List.reverseRecOn with
  | nil => simp [blocking, firstNew?, copies]
  | append_singleton signatures s ih =>
    rw [firstNew?_append_singleton, Option.or_eq_none_iff, ih, forall_copies_append_le]
    simp

theorem firstNew?_eq_some_iff :
    firstNew? baseline [] (blocking signatures) = some x ↔
      ∃ i, IsNewAt baseline signatures i x ∧ ∀ j < i, ∀ y, ¬IsNewAt baseline signatures j y := by
  induction signatures using List.reverseRecOn with
  | nil => simp [blocking, firstNew?, IsNewAt]
  | append_singleton signatures s ih =>
    rw [firstNew?_append_singleton, Option.or_eq_some_iff, ih, firstNew?_eq_none_iff]
    constructor
    · rintro (⟨i, hx, hfirst⟩ | ⟨hnone, hs⟩)
      · refine ⟨i, (isNewAt_append_of_lt signatures s x hx.lt_length).mpr hx, fun j hj y hy => ?_⟩
        exact hfirst j hj y ((isNewAt_append_of_lt signatures s y (Nat.lt_trans hj hx.lt_length)).mp hy)
      · refine ⟨_, (isNewAt_append_length signatures s x).mpr (by simpa using hs), fun j hj y hy => ?_⟩
        exact hnone j y ((isNewAt_append_of_lt signatures s y hj).mp hy)
    · rintro ⟨i, hx, hfirst⟩
      have hlength := hx.lt_length
      rw [List.length_append, List.length_singleton] at hlength
      rcases Nat.lt_succ_iff_lt_or_eq.mp hlength with hi | rfl
      · refine .inl ⟨i, (isNewAt_append_of_lt signatures s x hi).mp hx, fun j hj y hy => ?_⟩
        exact hfirst j hj y ((isNewAt_append_of_lt signatures s y (Nat.lt_trans hj hi)).mpr hy)
      · refine .inr ⟨fun j y hy => ?_, by simpa using (isNewAt_append_length signatures s x).mp hx⟩
        exact hfirst j hy.lt_length y ((isNewAt_append_of_lt signatures s y hy.lt_length).mpr hy)

end FirstNew

/-! ### Verdicts -/

/-- Two verdicts that agree, the new error aside. -/
inductive Verdict.SameKind : Verdict → Verdict → Prop
  | fixed : SameKind .fixed .fixed
  | targetPersists : SameKind .targetPersists .targetPersists
  | newError (s t : Signature) : SameKind (.newError s) (.newError t)

theorem Verdict.sameKind_of {v w : Verdict} (hpersists : v = .targetPersists ↔ w = .targetPersists)
    (hfixed : v = .fixed ↔ w = .fixed) : v.SameKind w := by
  cases v with
  | fixed =>
    rw [hfixed.mp rfl]
    exact .fixed
  | targetPersists =>
    rw [hpersists.mp rfl]
    exact .targetPersists
  | newError s =>
    cases w with
    | fixed => cases hfixed.mpr rfl
    | targetPersists => cases hpersists.mpr rfl
    | newError t => exact .newError s t

section Judge

variable {target : Signature} {baseline after : List Signature}

theorem judge_eq_targetPersists_iff :
    judge target baseline after = .targetPersists ↔
      max 1 (copies baseline target.fingerprint) ≤ copies after target.fingerprint := by
  rw [judge]
  split_ifs with hpersists
  · exact iff_of_true rfl hpersists
  · refine iff_of_false ?_ hpersists
    split <;> exact nofun

theorem judge_of_gone
    (hgone : copies after target.fingerprint < max 1 (copies baseline target.fingerprint)) :
    judge target baseline after =
      match firstNew? baseline [] (blocking after) with
      | some s => .newError s
      | none => .fixed :=
  if_neg (Nat.not_le.mpr hgone)

theorem judge_eq_fixed_iff :
    judge target baseline after = .fixed ↔
      copies after target.fingerprint < max 1 (copies baseline target.fingerprint) ∧
      ∀ f, copies after f ≤ copies baseline f := by
  by_cases hgone : copies after target.fingerprint < max 1 (copies baseline target.fingerprint)
  · rw [judge_of_gone hgone, ← firstNew?_eq_none_iff_le, and_iff_right hgone]
    cases firstNew? baseline [] (blocking after) <;> simp
  · have hpersists := judge_eq_targetPersists_iff.mpr (Nat.not_lt.mp hgone)
    rw [hpersists]
    exact iff_of_false nofun fun h => hgone h.1

theorem judge_eq_newError_iff {s : Signature} :
    judge target baseline after = .newError s ↔
      copies after target.fingerprint < max 1 (copies baseline target.fingerprint) ∧
      ∃ i, IsNewAt baseline after i s ∧ ∀ j < i, ∀ x, ¬IsNewAt baseline after j x := by
  by_cases hgone : copies after target.fingerprint < max 1 (copies baseline target.fingerprint)
  · rw [judge_of_gone hgone, ← firstNew?_eq_some_iff, and_iff_right hgone]
    cases firstNew? baseline [] (blocking after) <;> simp
  · have hpersists := judge_eq_targetPersists_iff.mpr (Nat.not_lt.mp hgone)
    rw [hpersists]
    exact iff_of_false nofun fun h => hgone h.1

theorem judge_sameKind {baseline' after' : List Signature}
    (hbaseline : ∀ f, copies baseline' f = copies baseline f) (hafter : ∀ f, copies after' f = copies after f) :
    (judge target baseline' after').SameKind (judge target baseline after) := by
  refine Verdict.sameKind_of ?_ ?_
  · rw [judge_eq_targetPersists_iff, judge_eq_targetPersists_iff, hbaseline, hafter]
  · simp only [judge_eq_fixed_iff, hbaseline, hafter]

theorem firstNew?_congr {baseline' : List Signature} (h : ∀ f, copies baseline' f = copies baseline f)
    (seen signatures : List Signature) :
    firstNew? baseline' seen signatures = firstNew? baseline seen signatures := by
  induction signatures generalizing seen with
  | nil => rfl
  | cons s rest ih => rw [firstNew?, firstNew?, h, ih]

theorem judge_congr {baseline' after' : List Signature} (hbaseline : blocking baseline' = blocking baseline)
    (hafter : blocking after' = blocking after) :
    judge target baseline' after' = judge target baseline after := by
  have hcopies : ∀ f, copies baseline' f = copies baseline f := fun f => by rw [copies, hbaseline, copies]
  have hcopies' : ∀ f, copies after' f = copies after f := fun f => by rw [copies, hafter, copies]
  rw [judge, judge, hcopies, hcopies', hafter, firstNew?_congr hcopies]

theorem length_blocking_lt (hle : ∀ f, copies after f ≤ copies baseline f) {f : String}
    (hlt : copies after f < copies baseline f) : (blocking after).length < (blocking baseline).length := by
  simp only [copies_eq_count] at hle hlt
  have hsub : ((blocking after).map fingerprint).Subperm ((blocking baseline).map fingerprint) :=
    List.subperm_ext_iff.mpr fun f _ => hle f
  refine Nat.lt_of_not_le fun hlength => ?_
  have hperm := hsub.perm_of_length_le (by simpa using hlength)
  exact Nat.lt_irrefl _ (hperm.count_eq f ▸ hlt)

end Judge

/-- A verdict by the numbers of copies of each fingerprint among the blocking diagnostics: the target
persists if it has as many copies as before, and at least one; otherwise the candidate is good if no
fingerprint has more copies than before; and otherwise the new error is the first diagnostic that is one too
many. So the order of the diagnostics does not change the kind of the verdict, and those that do not block
change nothing at all; and if the target was one of the blocking diagnostics, a good candidate has fewer of
them. -/
theorem judge_compares_copies (target : Signature) (baseline after : List Signature) :
    (judge target baseline after = .targetPersists ↔
      max 1 (copies baseline target.fingerprint) ≤ copies after target.fingerprint) ∧
    (judge target baseline after = .fixed ↔
      copies after target.fingerprint < max 1 (copies baseline target.fingerprint) ∧
      ∀ f, copies after f ≤ copies baseline f) ∧
    (∀ s, judge target baseline after = .newError s ↔
      copies after target.fingerprint < max 1 (copies baseline target.fingerprint) ∧
      ∃ i, IsNewAt baseline after i s ∧ ∀ j < i, ∀ x, ¬IsNewAt baseline after j x) ∧
    (∀ baseline' after', baseline'.Perm baseline → after'.Perm after →
      (judge target baseline' after').SameKind (judge target baseline after)) ∧
    (∀ baseline' after', blocking baseline' = blocking baseline → blocking after' = blocking after →
      judge target baseline' after' = judge target baseline after) ∧
    ((∃ s ∈ blocking baseline, s.fingerprint = target.fingerprint) →
      judge target baseline after = .fixed → (blocking after).length < (blocking baseline).length) := by
  refine ⟨judge_eq_targetPersists_iff, judge_eq_fixed_iff, fun s => judge_eq_newError_iff,
    fun baseline' after' hbaseline hafter => ?_, fun baseline' after' => judge_congr, ?_⟩
  · exact judge_sameKind (copies_perm hbaseline) (copies_perm hafter)
  · rintro ⟨s, hs, htarget⟩ hfixed
    obtain ⟨hgone, hle⟩ := judge_eq_fixed_iff.mp hfixed
    -- The target has a copy in the baseline, so the floor of one does not count.
    have hpos : 0 < copies baseline target.fingerprint :=
      List.countP_pos_iff.mpr ⟨s, hs, by simpa using htarget⟩
    have hlt : copies after target.fingerprint < copies baseline target.fingerprint := by omega
    exact length_blocking_lt hle hlt

/-- An error that stands in two lines, written with other blanks the second time. -/
def unknownName (line : Nat) (message : String) : Signature :=
  ⟨.error, some "E0425", message, none, some line, none⟩

/-- One of two copies of the target is gone; a warning has come up. -/
theorem judge_compares_twoCopies :
    let first := unknownName 3 "cannot find x"
    let second := unknownName 9 "cannot  find x"
    let other := Signature.error "mismatched types"
    let warning : Signature := { other with severity := .warning }
    judge first [first, other, second] [other, second] = .fixed ∧
    (judge first [other, second, first] [second, other]).SameKind .fixed ∧
    judge first [first, other, warning, second] [warning, other, second] = .fixed ∧
    (blocking [other, second]).length < (blocking [first, other, second]).length := by
  intro first second other warning
  obtain ⟨-, -, -, hperm, hblocking, hlength⟩ :=
    judge_compares_copies first [first, other, second] [other, second]
  have hgood : judge first [first, other, second] [other, second] = .fixed := by decide +kernel
  rw [hgood] at hperm hblocking
  refine ⟨hgood, ?_, ?_, ?_⟩
  · have hturned : ([other, second] ++ [first]).Perm ([first] ++ [other, second]) := List.perm_append_comm
    exact hperm _ _ hturned (.swap _ _ _)
  · exact hblocking _ _ rfl rfl
  · exact hlength ⟨second, by decide +kernel, by decide +kernel⟩ hgood

end TextRepair
