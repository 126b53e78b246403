import TextRepair.Proofs.Distance
import TextRepair.Proofs.Score

/-!
# Similarity over the rationals

`trueSimilarity` is one minus the edit distance over the greater length. Over the rationals, and for
texts of fewer than 31000 characters, a comparison with a floor gives this number where it reaches the
floor and nothing otherwise (`similarityAtLeast_eq`): the bound on the distance that is computed from
the floor admits neither too little nor too much.
-/

namespace TextRepair

/-- One minus the edit distance over the greater length; two empty texts are alike. -/
noncomputable def trueSimilarity (xs ys : List Char) : Rat :=
  if max xs.length ys.length = 0 then 1
  else 1 - (editDistance xs ys : Rat) / (max xs.length ys.length : Nat)

theorem isFraction_trueSimilarity {xs ys : List Char} (hxs : xs.length < 31000)
    (hys : ys.length < 31000) : Score.IsFraction (trueSimilarity xs ys) := by
  unfold trueSimilarity
  split_ifs with hlongest
  · exact Score.isFraction_one
  · exact ⟨_, _, Nat.pos_of_ne_zero hlongest, max_lt hxs hys, rfl⟩

theorem trueSimilarity_nonneg (xs ys : List Char) : 0 ≤ trueSimilarity xs ys := by
  unfold trueSimilarity
  split_ifs with hlongest
  · exact zero_le_one
  · have hpos : (0 : Rat) < (max xs.length ys.length : Nat) :=
      Nat.cast_pos.mpr (Nat.pos_of_ne_zero hlongest)
    rw [sub_nonneg, div_le_one hpos, Nat.cast_le, editDistance_eq_distance]
    exact distance_le_max xs ys

/-- A comparison with a floor that is itself the score of short texts, or 0, is exact. -/
theorem similarityAtLeast_eq {xs ys : List Char} (hxs : xs.length < 31000)
    (hys : ys.length < 31000) {floor : Rat} (hfloor : Score.IsFraction floor) (hnonneg : 0 ≤ floor) :
    similarityAtLeast xs ys floor
      = if floor ≤ trueSimilarity xs ys then some (trueSimilarity xs ys) else none := by
  unfold similarityAtLeast trueSimilarity
  simp only [Score.clamp_rat hnonneg hfloor.le_one, Score.tolerance_rat, Score.ofNat_rat,
    Score.floor_rat, Nat.cast_one, editDistance?_eq]
  by_cases hlongest : max xs.length ys.length = 0
  · rw [if_pos hlongest, if_pos hlongest, if_pos hfloor.le_one]
  · rw [if_neg hlongest, if_neg hlongest]
    have hbound := Score.le_distanceBound_iff hfloor (d := editDistance xs ys)
      (Nat.pos_of_ne_zero hlongest) (max_lt hxs hys)
    by_cases hreach : floor ≤ 1 - (editDistance xs ys : Rat) / (max xs.length ys.length : Nat)
    · have hreaches : Score.reaches
          (1 - (editDistance xs ys : Rat) / (max xs.length ys.length : Nat)) floor = true := by
        rw [Score.reaches_rat]
        linarith
      rw [if_pos (hbound.mpr hreach), if_pos hreach]
      simp only [hreaches, if_true]
    · rw [if_neg fun h => hreach (hbound.mp h), if_neg hreach]

theorem similarityAtLeast_eq_some {xs ys : List Char} {floor score : Rat}
    (hscore : similarityAtLeast xs ys floor = some score) : score = trueSimilarity xs ys := by
  unfold similarityAtLeast at hscore
  simp only [Score.ofNat_rat, Nat.cast_one, editDistance?_eq] at hscore
  unfold trueSimilarity
  split_ifs at hscore ⊢ with hlongest hbound
  · exact (Option.some.inj hscore).symm
  · simp only at hscore
    split_ifs at hscore
    exact (Option.some.inj hscore).symm

theorem similarityAtLeast_of_eq_one {xs ys : List Char} (hone : trueSimilarity xs ys = 1) (floor : Rat) :
    similarityAtLeast xs ys floor = some 1 := by
  unfold similarityAtLeast
  simp only [Score.ofNat_rat, Nat.cast_one, editDistance?_eq]
  by_cases hlongest : max xs.length ys.length = 0
  · rw [if_pos hlongest]
  · rw [trueSimilarity, if_neg hlongest] at hone
    have hpos : ((max xs.length ys.length : Nat) : Rat) ≠ 0 := Nat.cast_ne_zero.mpr hlongest
    have hnone : editDistance xs ys = 0 := by
      have : (editDistance xs ys : Rat) / (max xs.length ys.length : Nat) = 0 := by linarith
      exact Nat.cast_eq_zero.mp ((div_eq_zero_iff.mp this).resolve_right hpos)
    have hreaches : Score.reaches (1 : Rat) (Score.clamp floor) = true := by
      rw [Score.reaches_rat, Score.clamp_eq_rat]
      have : max 0 (min floor 1) ≤ 1 := max_le zero_le_one (min_le_right _ _)
      linarith
    rw [if_neg hlongest, hnone, if_pos (Nat.zero_le _)]
    simp only [Nat.cast_zero, zero_div, sub_zero, hreaches, if_true]

end TextRepair
