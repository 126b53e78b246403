import Mathlib.Data.List.Forall2
import Mathlib.Data.List.Perm.Basic
import TextRepair.CompilerOutput

/-!
# What a scan reports

A scan carries two things from line to line: a header that waits for its place, and the innermost frame of a
traceback. Both are described here by the lines alone. A line is reported if it is a diagnostic that starts with its
file, a header, or an exception with a frame since the last reported exception (`IsReported`), and `Reports` says
what is reported for it. A scan reports each such line once and nothing else (`yields_foldl`).

A header joins the diagnostics only when its place comes or its wait ends, so the diagnostics do not stand in the
order of their lines. `reported` goes through the lines without a waiting header, looking ahead for the place of each
one. The scan gives the same up to order, whatever it carries (`foldl_step_perm`), and line by line `reported` gives
what `Reports` says, as long as the frame that it carries is the one that waits (`IsWaiting`). What is reported for a
line is determined (`Reports.unique`), so the description fixes the diagnostics up to their order (`Yields.perm`).
-/

namespace TextRepair

namespace OutputLine

/-- Whether a header waits no longer for its place: at a diagnostic with its file and at another header, even that of
a summary. -/
def endsWait : OutputLine → Bool
  | finding _ | header _ | summary => true
  | _ => false

/-- Whether a line is the place of a header. -/
def isLocation : OutputLine → Bool
  | location _ _ _ => true
  | _ => false

end OutputLine

namespace CompilerOutput

/-! ### The lines that are reported -/

section

variable (lines : List OutputLine)

/-- Whether a line is a frame. -/
def IsFrame (i : Nat) : Prop :=
  ∃ file line, lines[i]? = some (.frame file line)

/-- Whether a line is an exception with a frame since the last such exception. -/
def IsRaised (i : Nat) : Prop :=
  (∃ name message, lines[i]? = some (.exception name message)) ∧
    ∃ j < i, IsFrame lines j ∧ ∀ k, j < k → k < i → ¬IsRaised k
  termination_by i

/-- Whether a line has a diagnostic of its own. -/
def IsReported (i : Nat) : Prop :=
  (∃ s, lines[i]? = some (.finding s)) ∨ (∃ s, lines[i]? = some (.header s)) ∨ IsRaised lines i

/-- The diagnostic of a line. -/
inductive Reports : Nat → Signature → Prop where
  | finding {i : Nat} {s : Signature} (hline : lines[i]? = some (.finding s)) : Reports i s
  /-- A header with the first place after it, before its wait ends. -/
  | placed {i j : Nat} {s : Signature} {file : String} {line column : Nat} (hline : lines[i]? = some (.header s))
      (hafter : i < j) (hplace : lines[j]? = some (.location file line column))
      (hfirst : ∀ k, i < k → k < j → ∀ m ∈ lines[k]?, ¬m.isLocation ∧ ¬m.endsWait) :
      Reports i { s with file := some file, line := some line, column := some column }
  /-- A header whose wait ends before any place comes. -/
  | unplaced {i : Nat} {s : Signature} (hline : lines[i]? = some (.header s))
      (hnone : ∀ j, i < j → (∃ m ∈ lines[j]?, m.isLocation) →
        ∃ k, i < k ∧ k < j ∧ ∃ m ∈ lines[k]?, m.endsWait) :
      Reports i s
  /-- An exception with the last frame before it. -/
  | raised {i j : Nat} {name message file : String} {line : Nat} (hline : lines[i]? = some (.exception name message))
      (hbefore : j < i) (hframe : lines[j]? = some (.frame file line))
      (hlast : ∀ k, j < k → k < i → ¬IsFrame lines k ∧ ¬IsRaised lines k) :
      Reports i { Signature.error message with code := some name, file := some file, line := some line }

/-- One diagnostic for each line that is reported, and no other. -/
def Yields (signatures : List Signature) : Prop :=
  ∃ places : List Nat, places.Nodup ∧ (∀ i, i ∈ places ↔ IsReported lines i) ∧
    List.Forall₂ (Reports lines) places signatures

end

/-! ### Looking ahead -/

/-- A header with its place, if one follows before its wait ends. -/
def placed (s : Signature) (rest : List OutputLine) : Signature :=
  match rest.find? fun m => m.isLocation || m.endsWait with
  | some (.location file line column) => { s with file := some file, line := some line, column := some column }
  | _ => s

/-- The diagnostics of lines in their order; `frame` is the innermost frame before them. -/
def reported : Option (String × Nat) → List OutputLine → List Signature
  | _, [] => []
  | frame, .finding s :: rest => s :: reported frame rest
  | frame, .header s :: rest => placed s rest :: reported frame rest
  | _, .frame file line :: rest => reported (some (file, line)) rest
  | some (file, line), .exception name message :: rest =>
    { Signature.error message with code := some name, file := some file, line := some line } :: reported none rest
  | none, .exception _ _ :: rest => reported none rest
  | frame, .location _ _ _ :: rest => reported frame rest
  | frame, .summary :: rest => reported frame rest
  | frame, .other :: rest => reported frame rest

theorem placed_of_endsWait {m : OutputLine} (hm : m.endsWait = true) (s : Signature) (rest : List OutputLine) :
    placed s (m :: rest) = s := by
  rw [placed, List.find?_cons_of_pos (by simp [hm])]
  cases m <;> first | rfl | cases hm

theorem placed_of_neither {m : OutputLine} (hplace : m.isLocation = false) (hother : m.endsWait = false)
    (s : Signature) (rest : List OutputLine) : placed s (m :: rest) = placed s rest := by
  rw [placed, List.find?_cons_of_neg (by simp [hplace, hother]), placed]

theorem foldl_step_perm (rest : List OutputLine) (p : Progress) :
    (rest.foldl Progress.step p).flush.found.Perm
      (p.found ++ (p.pending.toList.map (placed · rest) ++ reported p.frame rest)) := by
  induction rest generalizing p with
  | nil => simp [Progress.flush, reported, placed]
  | cons m rest ih =>
    obtain ⟨pending, frame, found⟩ := p
    refine (ih _).trans ?_
    have hended (hother : m.endsWait = true) : pending.toList.map (placed · (m :: rest)) = pending.toList := by
      simp [placed_of_endsWait hother]
    have hwaits (hplace : m.isLocation = false) (hother : m.endsWait = false) :
        pending.toList.map (placed · (m :: rest)) = pending.toList.map (placed · rest) := by
      simp [placed_of_neither hplace hother]
    cases m with
    | location file line column => simp [Progress.step, reported, placed, OutputLine.isLocation]
    | finding s => simp [Progress.step, Progress.flush, reported, hended rfl]
    | header s => simp [Progress.step, Progress.flush, reported, hended rfl]
    | summary => simp [Progress.step, Progress.flush, reported, hended rfl]
    | frame file line => simp [Progress.step, reported, hwaits rfl rfl]
    | exception name message =>
      rw [hwaits rfl rfl]
      rcases frame with _ | ⟨file, line⟩
      · simp [Progress.step, reported]
      -- the exception joins before the header that waits
      · simpa [Progress.step, reported] using List.perm_middle.symm.append_left found
    | other => simp [Progress.step, reported, hwaits rfl rfl]

/-! ### The frame that waits -/

section

variable {lines : List OutputLine}

/-- `frame` is the innermost frame before line `i` since the last reported exception. -/
def IsWaiting (lines : List OutputLine) (i : Nat) : Option (String × Nat) → Prop
  | none => ∀ j < i, IsFrame lines j → ∃ k, j < k ∧ k < i ∧ IsRaised lines k
  | some (file, line) => ∃ j < i, lines[j]? = some (.frame file line) ∧
      ∀ k, j < k → k < i → ¬IsFrame lines k ∧ ¬IsRaised lines k

theorem IsRaised.exists_exception {i : Nat} (h : IsRaised lines i) :
    ∃ name message, lines[i]? = some (.exception name message) := by
  rw [IsRaised] at h
  exact h.1

theorem isRaised_iff {i : Nat} {frame : Option (String × Nat)} (hwaiting : IsWaiting lines i frame) :
    IsRaised lines i ↔ (∃ name message, lines[i]? = some (.exception name message)) ∧ frame.isSome = true := by
  rw [IsRaised]
  refine and_congr_right fun _ => ?_
  rcases frame with _ | ⟨file, line⟩
  · constructor
    · rintro ⟨j, hj, hframe, hnone⟩
      obtain ⟨k, hjk, hki, hraised⟩ := hwaiting j hj hframe
      exact absurd hraised (hnone k hjk hki)
    · intro h
      cases h
  · obtain ⟨j, hj, hframe, hlast⟩ := hwaiting
    exact ⟨fun _ => rfl, fun _ => ⟨j, hj, ⟨file, line, hframe⟩, fun k hjk hki => (hlast k hjk hki).2⟩⟩

theorem IsWaiting.succ {i : Nat} {frame : Option (String × Nat)} (hwaiting : IsWaiting lines i frame)
    (hframe : ¬IsFrame lines i) (hraised : ¬IsRaised lines i) : IsWaiting lines (i + 1) frame := by
  rcases frame with _ | ⟨file, line⟩
  · intro j hj hjframe
    have hji : j ≠ i := by
      rintro rfl
      exact hframe hjframe
    obtain ⟨k, hjk, hki, hk⟩ := hwaiting j (by omega) hjframe
    exact ⟨k, hjk, by omega, hk⟩
  · obtain ⟨j, hj, hjframe, hlast⟩ := hwaiting
    refine ⟨j, by omega, hjframe, fun k hjk hki => ?_⟩
    rcases Nat.lt_succ_iff_lt_or_eq.mp hki with hki | rfl
    · exact hlast k hjk hki
    · exact ⟨hframe, hraised⟩

theorem IsWaiting.of_frame {i : Nat} {file : String} {line : Nat} (hline : lines[i]? = some (.frame file line)) :
    IsWaiting lines (i + 1) (some (file, line)) :=
  ⟨i, by omega, hline, fun k hik hki => by omega⟩

theorem IsWaiting.of_raised {i : Nat} (hraised : IsRaised lines i) : IsWaiting lines (i + 1) none := by
  intro j hj hframe
  have hji : j ≠ i := by
    rintro rfl
    obtain ⟨name, message, hline⟩ := hraised.exists_exception
    obtain ⟨file, line, hframe⟩ := hframe
    rw [hline] at hframe
    cases hframe
  exact ⟨i, by omega, by omega, hraised⟩

/-! ### Line by line -/

theorem reports_placed {i : Nat} {s : Signature} (hline : lines[i]? = some (.header s)) :
    Reports lines i (placed s (lines.drop (i + 1))) := by
  have hget {j : Nat} (hj : i < j) : lines[j]? = (lines.drop (i + 1))[j - (i + 1)]? := by
    rw [List.getElem?_drop]
    congr 1
    omega
  rw [placed]
  -- the first line that is a place or ends the wait, if there is one
  cases hfind : (lines.drop (i + 1)).find? fun m => m.isLocation || m.endsWait with
  | none =>
    refine .unplaced hline fun j hj ⟨m, hm, hplace⟩ => ?_
    have hmem : m ∈ lines.drop (i + 1) := List.mem_of_getElem? ((hget hj).symm.trans hm)
    exact absurd (by simp [hplace]) (List.find?_eq_none.mp hfind m hmem)
  | some m =>
    obtain ⟨hm, k, hk, hat, hfirst⟩ := List.find?_eq_some_iff_getElem.mp hfind
    have hat : lines[i + 1 + k]? = some m := by
      rw [← List.getElem?_drop, List.getElem?_eq_getElem hk, hat]
    have hbefore (j : Nat) (hij : i < j) (hjk : j < i + 1 + k) :
        ∀ m ∈ lines[j]?, ¬m.isLocation = true ∧ ¬m.endsWait = true := by
      intro m hm
      have hlt : j - (i + 1) < k := by omega
      obtain ⟨hj, rfl⟩ := List.getElem?_eq_some_iff.mp ((hget hij).symm.trans hm)
      simpa using hfirst (j - (i + 1)) hlt
    by_cases hplace : m.isLocation = true
    · cases m with
      | location file line column => exact .placed hline (by omega) hat hbefore
      | _ => cases hplace
    · have hother : m.endsWait = true := by simpa [hplace] using hm
      have hunplaced : Reports lines i s := by
        refine .unplaced hline fun j hij ⟨m', hm', hplace'⟩ => ⟨i + 1 + k, by omega, ?_, m, hat, hother⟩
        rcases Nat.lt_trichotomy j (i + 1 + k) with hlt | rfl | hgt
        · exact absurd hplace' (hbefore j hij hlt m' hm').1
        · rw [hat, Option.mem_some] at hm'
          exact absurd (hm' ▸ hplace') hplace
        · exact hgt
      cases m with
      | location file line column => cases hother
      | _ => exact hunplaced

/-- One diagnostic for each line from `i` on that is reported, in the order of the lines. -/
def YieldsFrom (lines : List OutputLine) (i : Nat) (signatures : List Signature) : Prop :=
  ∃ places : List Nat, places.Pairwise (· < ·) ∧ (∀ p, p ∈ places ↔ i ≤ p ∧ IsReported lines p) ∧
    List.Forall₂ (Reports lines) places signatures

theorem YieldsFrom.cons {i : Nat} {s : Signature} {signatures : List Signature}
    (h : YieldsFrom lines (i + 1) signatures) (hreported : IsReported lines i) (hs : Reports lines i s) :
    YieldsFrom lines i (s :: signatures) := by
  obtain ⟨places, hsorted, hplaces, hall⟩ := h
  have hlater : ∀ p ∈ places, i < p := fun p hp => ((hplaces p).mp hp).1
  refine ⟨i :: places, List.pairwise_cons.mpr ⟨hlater, hsorted⟩, fun p => ?_, .cons hs hall⟩
  rw [List.mem_cons, hplaces]
  constructor
  · rintro (rfl | ⟨hp, hp'⟩)
    · exact ⟨Nat.le_refl _, hreported⟩
    · exact ⟨by omega, hp'⟩
  · rintro ⟨hp, hp'⟩
    rcases Nat.eq_or_lt_of_le hp with rfl | hp
    · exact Or.inl rfl
    · exact Or.inr ⟨hp, hp'⟩

theorem YieldsFrom.skip {i : Nat} {signatures : List Signature} (h : YieldsFrom lines (i + 1) signatures)
    (hreported : ¬IsReported lines i) : YieldsFrom lines i signatures := by
  obtain ⟨places, hsorted, hplaces, hall⟩ := h
  refine ⟨places, hsorted, fun p => ?_, hall⟩
  rw [hplaces]
  constructor
  · rintro ⟨hp, hp'⟩
    exact ⟨by omega, hp'⟩
  · rintro ⟨hp, hp'⟩
    have hpi : p ≠ i := by
      rintro rfl
      exact hreported hp'
    exact ⟨by omega, hp'⟩

theorem not_isReported {i : Nat} {m : OutputLine} (hline : lines[i]? = some m) (hfinding : ∀ s, m ≠ .finding s)
    (hheader : ∀ s, m ≠ .header s) (hraised : ¬IsRaised lines i) : ¬IsReported lines i := by
  rintro (⟨s, hs⟩ | ⟨s, hs⟩ | h)
  · exact hfinding s (Option.some.inj (hline.symm.trans hs))
  · exact hheader s (Option.some.inj (hline.symm.trans hs))
  · exact hraised h

theorem yieldsFrom_reported (rest : List OutputLine) (i : Nat) (hrest : lines.drop i = rest)
    (frame : Option (String × Nat)) (hwaiting : IsWaiting lines i frame) :
    YieldsFrom lines i (reported frame rest) := by
  induction rest generalizing i frame with
  | nil =>
    refine ⟨[], .nil, fun p => ?_, .nil⟩
    have hlength := List.drop_eq_nil_iff.mp hrest
    simp only [List.not_mem_nil, false_iff, not_and]
    intro hp hreported
    have hnone : lines[p]? = none := List.getElem?_eq_none (Nat.le_trans hlength hp)
    rcases hreported with ⟨s, hs⟩ | ⟨s, hs⟩ | h
    · simp [hnone] at hs
    · simp [hnone] at hs
    · obtain ⟨name, message, hs⟩ := h.exists_exception
      simp [hnone] at hs
  | cons m rest ih =>
    have hline : lines[i]? = some m := by
      rw [← List.head?_drop, hrest]
      rfl
    have hnext : lines.drop (i + 1) = rest := by
      rw [← List.tail_drop, hrest]
      rfl
    have hquiet (hframe : ∀ file line, m ≠ .frame file line)
        (hexception : ∀ name message, m ≠ .exception name message) :
        ¬IsRaised lines i ∧ IsWaiting lines (i + 1) frame := by
      have hraised : ¬IsRaised lines i := fun h => by
        obtain ⟨name, message, hname⟩ := h.exists_exception
        exact hexception name message (Option.some.inj (hline.symm.trans hname))
      refine ⟨hraised, hwaiting.succ ?_ hraised⟩
      rintro ⟨file, line, hfile⟩
      exact hframe file line (Option.some.inj (hline.symm.trans hfile))
    cases m with
    | location file line column =>
      obtain ⟨hraised, hwaiting⟩ := hquiet (by simp) (by simp)
      exact (ih (i + 1) hnext frame hwaiting).skip (not_isReported hline (by simp) (by simp) hraised)
    | finding s =>
      obtain ⟨-, hwaiting⟩ := hquiet (by simp) (by simp)
      exact (ih (i + 1) hnext frame hwaiting).cons (.inl ⟨s, hline⟩) (.finding hline)
    | header s =>
      obtain ⟨-, hwaiting⟩ := hquiet (by simp) (by simp)
      exact (ih (i + 1) hnext frame hwaiting).cons (.inr (.inl ⟨s, hline⟩)) (hnext ▸ reports_placed hline)
    | summary =>
      obtain ⟨hraised, hwaiting⟩ := hquiet (by simp) (by simp)
      exact (ih (i + 1) hnext frame hwaiting).skip (not_isReported hline (by simp) (by simp) hraised)
    | frame file line =>
      have hraised : ¬IsRaised lines i := fun h => by
        obtain ⟨name, message, hname⟩ := h.exists_exception
        cases hline.symm.trans hname
      exact (ih (i + 1) hnext _ (.of_frame hline)).skip (not_isReported hline (by simp) (by simp) hraised)
    | exception name message =>
      rcases frame with _ | ⟨file, line⟩
      · have hraised : ¬IsRaised lines i := fun h => by
          cases ((isRaised_iff hwaiting).mp h).2
        have hframe : ¬IsFrame lines i := fun ⟨file, line, hfile⟩ => by
          cases hline.symm.trans hfile
        exact (ih (i + 1) hnext none (hwaiting.succ hframe hraised)).skip
          (not_isReported hline (by simp) (by simp) hraised)
      · have hraised : IsRaised lines i := (isRaised_iff hwaiting).mpr ⟨⟨name, message, hline⟩, rfl⟩
        obtain ⟨j, hj, hframe, hlast⟩ := hwaiting
        exact (ih (i + 1) hnext none (.of_raised hraised)).cons (.inr (.inr hraised)) (.raised hline hj hframe hlast)
    | other =>
      obtain ⟨hraised, hwaiting⟩ := hquiet (by simp) (by simp)
      exact (ih (i + 1) hnext frame hwaiting).skip (not_isReported hline (by simp) (by simp) hraised)

/-- A scan reports each line that is to be reported once, and nothing else. -/
theorem yields_foldl (lines : List OutputLine) :
    Yields lines (lines.foldl Progress.step ⟨none, none, []⟩).flush.found := by
  have hstart : IsWaiting lines 0 none := fun j hj => absurd hj (Nat.not_lt_zero j)
  obtain ⟨places, hsorted, hplaces, hall⟩ := yieldsFrom_reported lines 0 rfl none hstart
  have hperm : (lines.foldl Progress.step ⟨none, none, []⟩).flush.found.Perm (reported none lines) :=
    foldl_step_perm lines ⟨none, none, []⟩
  obtain ⟨places', hall', hplaces'⟩ := List.perm_comp_forall₂ hperm hall.flip
  refine ⟨places', hplaces'.nodup_iff.mpr (hsorted.imp Nat.ne_of_lt), fun i => ?_, hall'.flip⟩
  rw [hplaces'.mem_iff, hplaces]
  simp

theorem Reports.unique {i : Nat} {s t : Signature} (hs : Reports lines i s) (ht : Reports lines i t) : s = t := by
  cases hs with
  | finding hline =>
    cases ht with
    | finding hline' => exact OutputLine.finding.inj (Option.some.inj (hline.symm.trans hline'))
    | placed hline' => cases hline.symm.trans hline'
    | unplaced hline' => cases hline.symm.trans hline'
    | raised hline' => cases hline.symm.trans hline'
  | @placed j _ file line column hline hafter hplace hfirst =>
    cases ht with
    | finding hline' => cases hline.symm.trans hline'
    | @placed j' _ file' line' column' hline' hafter' hplace' hfirst' =>
      rcases Nat.lt_trichotomy j j' with hlt | rfl | hlt
      · exact absurd rfl (hfirst' j hafter hlt _ hplace).1
      · cases hline.symm.trans hline'
        cases hplace.symm.trans hplace'
        rfl
      · exact absurd rfl (hfirst j' hafter' hlt _ hplace').1
    | unplaced hline' hnone =>
      obtain ⟨k, hik, hkj, m, hm, hother⟩ := hnone j hafter ⟨_, hplace, rfl⟩
      exact absurd hother (hfirst k hik hkj m hm).2
    | raised hline' => cases hline.symm.trans hline'
  | unplaced hline hnone =>
    cases ht with
    | finding hline' => cases hline.symm.trans hline'
    | placed hline' hafter hplace hfirst =>
      obtain ⟨k, hik, hkj, m, hm, hother⟩ := hnone _ hafter ⟨_, hplace, rfl⟩
      exact absurd hother (hfirst k hik hkj m hm).2
    | unplaced hline' => exact OutputLine.header.inj (Option.some.inj (hline.symm.trans hline'))
    | raised hline' => cases hline.symm.trans hline'
  | @raised j name message file line hline hbefore hframe hlast =>
    cases ht with
    | finding hline' => cases hline.symm.trans hline'
    | placed hline' => cases hline.symm.trans hline'
    | unplaced hline' => cases hline.symm.trans hline'
    | @raised j' name' message' file' line' hline' hbefore' hframe' hlast' =>
      rcases Nat.lt_trichotomy j j' with hlt | rfl | hlt
      · exact absurd ⟨_, _, hframe'⟩ (hlast j' hlt hbefore').1
      · cases hline.symm.trans hline'
        cases hframe.symm.trans hframe'
        rfl
      · exact absurd ⟨_, _, hframe⟩ (hlast' j hlt hbefore).1

theorem Yields.perm {signatures signatures' : List Signature} (h : Yields lines signatures)
    (h' : Yields lines signatures') : signatures.Perm signatures' := by
  obtain ⟨places, hnodup, hplaces, hall⟩ := h
  obtain ⟨places', hnodup', hplaces', hall'⟩ := h'
  have hsame : places.Perm places' :=
    (List.perm_ext_iff_of_nodup hnodup hnodup').mpr fun i => (hplaces i).trans (hplaces' i).symm
  obtain ⟨reordered, hreordered, hperm⟩ := List.perm_comp_forall₂ hsame hall'
  have hunique : Relator.RightUnique (Reports lines) := fun _ _ _ => Reports.unique
  rwa [hunique.forall₂ hall hreordered]

end

end CompilerOutput

end TextRepair
