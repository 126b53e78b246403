import TextRepair.Proofs.Signature.Verdict
import TextRepair.Proofs.Text.Blank
import Mathlib.Data.List.Basic

/-!
# What a fingerprint tells

A fingerprint is the code, a bar and the words of the message. Messages may have bars too, so it tells two
diagnostics apart only if their codes have none: then the first bar is the one behind the code. An empty code
would be taken for none. Where codes are clear in this sense (`HasClearCode`), equal fingerprints are equal codes
and equal words (`fingerprint_eq_iff`), and a verdict counts diagnostics by these (`copies_eq_countAlike`).
-/

namespace TextRepair

namespace Signature

/-- There is no code, or it is not empty and has no bar. -/
def HasClearCode (s : Signature) : Prop :=
  ∀ code ∈ s.code, code ≠ "" ∧ '|' ∉ code.toList

/-- The same code and the same words: what is left may differ. -/
def IsAlike (s t : Signature) : Prop :=
  s.code = t.code ∧ Text.words s.message = Text.words t.message

instance (s t : Signature) : Decidable (s.IsAlike t) :=
  inferInstanceAs (Decidable (_ ∧ _))

/-- The number of blocking diagnostics that are like `s`. -/
def countAlike (signatures : List Signature) (s : Signature) : Nat :=
  (blocking signatures).countP fun t => t.IsAlike s

section

variable {s t : Signature} {signatures : List Signature}

theorem HasClearCode.bar_notMem (h : s.HasClearCode) : '|' ∉ (s.code.getD "").toList := by
  cases hcode : s.code with
  | none => simp
  | some code => exact (h code hcode).2

theorem HasClearCode.code_eq_iff (hs : s.HasClearCode) (ht : t.HasClearCode) :
    s.code.getD "" = t.code.getD "" ↔ s.code = t.code := by
  refine ⟨fun h => ?_, fun h => congrArg (·.getD "") h⟩
  cases hscode : s.code with
  | none =>
    cases htcode : t.code with
    | none => rfl
    | some code =>
      rw [hscode, htcode] at h
      exact absurd h.symm (ht code htcode).1
  | some code =>
    cases htcode : t.code with
    | none =>
      rw [hscode, htcode] at h
      exact absurd h (hs code hscode).1
    | some code' =>
      rw [hscode, htcode] at h
      exact congrArg some h

theorem toList_fingerprint (s : Signature) :
    s.fingerprint.toList = (s.code.getD "").toList ++ '|' :: Text.collapse s.message := by
  simp [fingerprint, Text.collapseBlanks]

theorem append_bar_inj {front front' back back' : List Char} (hfront : '|' ∉ front) (hfront' : '|' ∉ front') :
    front ++ '|' :: back = front' ++ '|' :: back' ↔ front = front' ∧ back = back' := by
  have htake (front back : List Char) (hfront : '|' ∉ front) :
      (front ++ '|' :: back).takeWhile (· ≠ '|') = front := by
    have hall : ∀ c ∈ front, decide (c ≠ '|') = true := by
      intro c hc
      simpa using fun h : c = '|' => hfront (h ▸ hc)
    rw [List.takeWhile_append_of_pos hall]
    simp
  constructor
  · intro h
    obtain rfl : front = front' := by
      rw [← htake front back hfront, h, htake front' back' hfront']
    simpa using h
  · rintro ⟨rfl, rfl⟩
    rfl

theorem fingerprint_eq_iff (hs : s.HasClearCode) (ht : t.HasClearCode) :
    s.fingerprint = t.fingerprint ↔ s.IsAlike t := by
  rw [← String.toList_inj, toList_fingerprint, toList_fingerprint, append_bar_inj hs.bar_notMem ht.bar_notMem,
    String.toList_inj, hs.code_eq_iff ht, Text.collapse_eq_iff, IsAlike]

theorem copies_eq_countAlike (hsignatures : ∀ t ∈ signatures, t.HasClearCode) (hs : s.HasClearCode) :
    copies signatures s.fingerprint = countAlike signatures s := by
  refine List.countP_congr fun t ht => ?_
  have htclear := hsignatures t (List.mem_of_mem_filter ht)
  simp [fingerprint_eq_iff htclear hs]

end

end Signature

open Signature

section Judge

variable {target : Signature} {baseline after : List Signature}

theorem forall_copies_le_iff :
    (∀ f, copies after f ≤ copies baseline f) ↔
      ∀ s ∈ after, copies after s.fingerprint ≤ copies baseline s.fingerprint := by
  refine ⟨fun h s _ => h s.fingerprint, fun h f => ?_⟩
  by_cases hf : copies after f = 0
  · omega
  · obtain ⟨s, hs, rfl⟩ : ∃ s ∈ blocking after, s.fingerprint = f := by
      simpa [copies, List.countP_eq_zero] using hf
    exact h s (List.mem_of_mem_filter hs)

theorem judge_eq_fixed_iff_alike (htarget : target.HasClearCode) (hbaseline : ∀ s ∈ baseline, s.HasClearCode)
    (hafter : ∀ s ∈ after, s.HasClearCode) :
    judge target baseline after = .fixed ↔
      countAlike after target < max 1 (countAlike baseline target) ∧
      ∀ s ∈ after, countAlike after s ≤ countAlike baseline s := by
  rw [judge_eq_fixed_iff, forall_copies_le_iff, copies_eq_countAlike hafter htarget,
    copies_eq_countAlike hbaseline htarget]
  refine and_congr_right fun _ => forall₂_congr fun s hs => ?_
  rw [copies_eq_countAlike hafter (hafter s hs), copies_eq_countAlike hbaseline (hafter s hs)]

theorem judge_eq_targetPersists_iff_alike (htarget : target.HasClearCode)
    (hbaseline : ∀ s ∈ baseline, s.HasClearCode) (hafter : ∀ s ∈ after, s.HasClearCode) :
    judge target baseline after = .targetPersists ↔
      max 1 (countAlike baseline target) ≤ countAlike after target := by
  rw [judge_eq_targetPersists_iff, copies_eq_countAlike hafter htarget, copies_eq_countAlike hbaseline htarget]

/-- At place `i` stands a blocking diagnostic that, together with those like it before it, outnumbers those in
`baseline`. -/
def IsOneTooManyAt (baseline signatures : List Signature) (i : Nat) (s : Signature) : Prop :=
  signatures[i]? = some s ∧ s.isBlocking = true ∧
    countAlike baseline s < countAlike (signatures.take i ++ [s]) s

theorem isNewAt_iff_isOneTooManyAt (hbaseline : ∀ s ∈ baseline, s.HasClearCode)
    (hafter : ∀ s ∈ after, s.HasClearCode) {i : Nat} {s : Signature} :
    IsNewAt baseline after i s ↔ IsOneTooManyAt baseline after i s := by
  refine and_congr_right fun hs => and_congr_right fun _ => ?_
  have hsclear := hafter s (List.mem_of_getElem? hs)
  have hpassed : ∀ t ∈ after.take i ++ [s], t.HasClearCode := by
    intro t ht
    rcases List.mem_append.mp ht with ht | ht
    · exact hafter t (List.mem_of_mem_take ht)
    · exact List.mem_singleton.mp ht ▸ hsclear
  rw [copies_eq_countAlike hbaseline hsclear, copies_eq_countAlike hpassed hsclear]

theorem judge_eq_newError_iff_alike (htarget : target.HasClearCode) (hbaseline : ∀ s ∈ baseline, s.HasClearCode)
    (hafter : ∀ s ∈ after, s.HasClearCode) {s : Signature} :
    judge target baseline after = .newError s ↔
      countAlike after target < max 1 (countAlike baseline target) ∧
      ∃ i, IsOneTooManyAt baseline after i s ∧ ∀ j < i, ∀ x, ¬IsOneTooManyAt baseline after j x := by
  rw [judge_eq_newError_iff, copies_eq_countAlike hafter htarget, copies_eq_countAlike hbaseline htarget]
  simp only [isNewAt_iff_isOneTooManyAt hbaseline hafter]

end Judge

end TextRepair
