import TextRepair.Proofs.Locate.Exact

/-!
# What a certain match says

A verbatim match without alternatives is reported with confidence 1 (`confidence_eq_one_iff`). Alternatives
are occurrences that have no line in common with the one that was found, so there may be other ones: an
anchor that goes on with its own start after `k` lines, two lines `end` say, can occur again `k` lines
further on (`HasPeriod`). Main statement, `scan_exact_certain`: a match is certain if and only if every
occurrence is the one that was found or is a period of the anchor away from it. If the anchor has no period,
it then occurs once; three lines `end` in a row hold two occurrences of two of them, and the match is
certain all the same (`not_unique_overlapping`).
-/

namespace TextRepair

namespace Locate

variable {lines anchor : List String} {start k : Nat}

/-- After `k` lines the list goes on as it began. -/
def HasPeriod (anchor : List String) (k : Nat) : Prop :=
  0 < k ∧ k < anchor.length ∧ anchor.drop k <+: anchor

instance (anchor : List String) (k : Nat) : Decidable (HasPeriod anchor k) :=
  inferInstanceAs (Decidable (_ ∧ _))

theorem OccursAt.hasPeriod (h : OccursAt lines anchor start) (h' : OccursAt lines anchor (start + k))
    (hpos : 0 < k) (hlt : k < anchor.length) : HasPeriod anchor k := by
  refine ⟨hpos, hlt, ?_⟩
  have hdrop : anchor.drop k = ((lines.drop (start + k)).take anchor.length).take (anchor.length - k) := by
    have hslice : slice lines start anchor.length = anchor := h.2
    rw [slice] at hslice
    rw [List.take_take, Nat.min_eq_left (Nat.sub_le _ _), ← List.drop_drop, ← List.drop_take, hslice]
  have hslice : (lines.drop (start + k)).take anchor.length = anchor := h'.2
  rw [hdrop, hslice]
  exact List.take_prefix _ _

/-- An occurrence overlaps another one if and only if it is that one or a period away from it. -/
theorem OccursAt.overlaps_iff (h : OccursAt lines anchor start) (hne : anchor ≠ []) {other : Nat}
    (hother : OccursAt lines anchor other) :
    other < start + anchor.length ∧ start < other + anchor.length ↔
      other = start ∨ ∃ k, HasPeriod anchor k ∧ (other = start + k ∨ start = other + k) := by
  have hpos := List.length_pos_iff.mpr hne
  constructor
  · rintro ⟨hbehind, hbefore⟩
    rcases Nat.lt_trichotomy other start with hlt | heq | hlt
    · obtain ⟨k, rfl⟩ := Nat.exists_eq_add_of_lt hlt
      exact .inr ⟨k + 1, hother.hasPeriod h (Nat.succ_pos k) (by omega), .inr rfl⟩
    · exact .inl heq
    · obtain ⟨k, rfl⟩ := Nat.exists_eq_add_of_lt hlt
      exact .inr ⟨k + 1, h.hasPeriod hother (Nat.succ_pos k) (by omega), .inl rfl⟩
  · rintro (rfl | ⟨k, ⟨-, hlt, -⟩, rfl | rfl⟩)
    · omega
    · omega
    · omega

end Locate

open Locate

theorem Candidate.IsVerbatim.alternatives_eq_zero_iff {S : Type} {lines anchor : List String}
    {hint : Option Nat} {c : Candidate S} (h : c.IsVerbatim lines anchor hint) :
    c.alternatives = 0 ↔
      ∀ other, OccursAt lines anchor other → other < c.stop ∧ c.start < other + anchor.length := by
  have hfinite : {other | OccursAt lines anchor other ∧
      (other + anchor.length ≤ c.start ∨ c.stop ≤ other)}.Finite := by
    refine (Set.finite_lt_nat (lines.length + 1)).subset fun other hother => ?_
    have hinside : other + anchor.length ≤ lines.length := hother.1.1
    show other < lines.length + 1
    omega
  rw [h.alternatives, Set.ncard_eq_zero hfinite, Set.eq_empty_iff_forall_notMem]
  constructor
  · intro hnone other hocc
    by_contra hapart
    refine hnone other ⟨hocc, ?_⟩
    omega
  · rintro hall other ⟨hocc, hapart⟩
    have := hall other hocc
    omega

namespace Matcher

theorem scan_exact_nil {S : Type} [Score S] (d : Document) (hint : Option Nat) :
    (exact : Matcher S).scan d [] hint = none :=
  rfl

theorem confidence_scan_exact {S : Type} [Score S]
    (hnear : Score.near (Score.ofNat 1 : S) (Score.ofNat 1) = true) {d : Document} {anchor : List String}
    (hne : anchor ≠ []) {hint : Option Nat} {found : Scan S}
    (hscan : (exact : Matcher S).scan d anchor hint = some found) :
    found.candidate.confidence
      = confidenceOf (Score.ofNat 1) (Score.ofNat 1) found.candidate.alternatives := by
  rw [scan_exact hnear d hne] at hscan
  obtain ⟨best, hbest, rfl⟩ := Option.map_eq_some_iff.mp hscan
  rw [← score_of_mem_exactWindows (List.argmin_mem hbest)]

theorem confidence_eq_one_iff (alternatives : Nat) :
    confidenceOf (Score.ofNat 1 : Float) (Score.ofNat 1) alternatives = Score.ofNat 1
      ↔ alternatives = 0 := by
  cases alternatives with
  | zero => exact iff_of_true rfl rfl
  | succ n =>
    refine iff_of_false ?_ (Nat.succ_ne_zero n)
    rw [confidenceOf, if_pos (Nat.succ_pos n)]
    decide +kernel

/-- A verbatim match. Its confidence is 1 just in case it has no alternatives, and that is so just in case
every occurrence of the anchor is the one that was found or a period of the anchor away from it. For an
anchor without a period this says that there is one occurrence. -/
theorem scan_exact_certain (d : Document) (anchor : List String) (hint : Option Nat) {found : Scan Float}
    (hscan : (exact : Matcher Float).scan d anchor hint = some found) :
    OccursAt d.texts anchor found.candidate.start ∧
    (found.candidate.confidence = Score.ofNat 1 ↔ found.candidate.alternatives = 0) ∧
    (found.candidate.alternatives = 0 ↔ ∀ other, OccursAt d.texts anchor other →
      other = found.candidate.start ∨ ∃ k, HasPeriod anchor k ∧
        (other = found.candidate.start + k ∨ found.candidate.start = other + k)) ∧
    ((∃! start, OccursAt d.texts anchor start) → found.candidate.alternatives = 0) ∧
    ((∀ k, ¬HasPeriod anchor k) →
      (found.candidate.alternatives = 0 ↔ ∃! start, OccursAt d.texts anchor start)) := by
  have hne : anchor ≠ [] := by
    rintro rfl
    rw [scan_exact_nil] at hscan
    cases hscan
  obtain ⟨found', hfound, hverbatim⟩ := (scan_exact_cases (S := Float) rfl d hne hint).resolve_left
    fun hnone => by rw [hnone.1] at hscan; cases hscan
  obtain rfl : found' = found := Option.some.inj (hfound.symm.trans hscan)
  have hocc := hverbatim.nearest.occurs
  have hcertain : found'.candidate.alternatives = 0 ↔ ∀ other, OccursAt d.texts anchor other →
      other = found'.candidate.start ∨ ∃ k, HasPeriod anchor k ∧
        (other = found'.candidate.start + k ∨ found'.candidate.start = other + k) := by
    rw [hverbatim.alternatives_eq_zero_iff, hverbatim.stop]
    exact forall₂_congr fun other hother => hocc.overlaps_iff hne hother
  have hunique : (∃! start, OccursAt d.texts anchor start) → found'.candidate.alternatives = 0 :=
    fun hunique => hcertain.mpr fun other hother => .inl (hunique.unique hother hocc)
  refine ⟨hocc, ?_, hcertain, hunique, fun hperiod => ⟨fun hzero => ?_, hunique⟩⟩
  · rw [confidence_scan_exact (S := Float) rfl hne hscan]
    exact confidence_eq_one_iff _
  · refine ⟨_, hocc, fun other hother => ?_⟩
    exact (hcertain.mp hzero other hother).resolve_right fun ⟨k, hk, _⟩ => hperiod k hk

/-- The two lines of the anchor stand next to each other in this order once, and once in the other one. -/
theorem scan_exact_certain_inOrder :
    ∃ found, (exact : Matcher Float).scan (Document.parse "b\na\nb\na\n") ["a", "b"] none = some found ∧
      (∀ k, ¬HasPeriod ["a", "b"] k) ∧ found.candidate.alternatives = 0 ∧
      ∃! start, OccursAt (Document.parse "b\na\nb\na\n").texts ["a", "b"] start := by
  obtain ⟨found, hscan⟩ : ∃ found,
    (exact : Matcher Float).scan (Document.parse "b\na\nb\na\n") ["a", "b"] none = some found := ⟨_, rfl⟩
  have hzero : found.candidate.alternatives = 0 := by
    cases hscan
    rfl
  have hperiod : ∀ k, ¬HasPeriod ["a", "b"] k := by
    rintro k ⟨hpos, hlt, hstart⟩
    obtain rfl : k = 1 := Nat.le_antisymm (Nat.le_of_lt_succ hlt) hpos
    revert hstart
    decide
  obtain ⟨-, -, -, -, hunique⟩ := scan_exact_certain _ ["a", "b"] none hscan
  exact ⟨found, hscan, hperiod, hzero, (hunique hperiod).mp hzero⟩

/-- Two lines occur twice in three. -/
theorem not_unique_overlapping :
    ¬∀ (d : Document) (anchor : List String) (hint : Option Nat) (found : Scan Float),
      (exact : Matcher Float).scan d anchor hint = some found → found.candidate.alternatives = 0 →
      ∃! start, OccursAt d.texts anchor start := by
  intro hclaim
  obtain ⟨start, -, hunique⟩ := hclaim (Document.parse "end\nend\nend\n") ["end", "end"] none _ rfl rfl
  have hfirst := hunique 0 (by decide)
  have hsecond := hunique 1 (by decide)
  omega

end Matcher

end TextRepair
