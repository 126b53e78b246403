import TextRepair.Score
import Mathlib.Algebra.Order.Floor.Semiring
import Mathlib.Data.Rat.Floor
import Mathlib.Tactic.FieldSimp
import Mathlib.Tactic.Linarith
import Mathlib.Tactic.NormNum

/-!
# Scores as exact rationals

Over the rationals the arithmetic of scores is the usual one. The scores of matching are fractions
`1 - d / l` (`IsFraction`); with denominators below 31000 two of them that differ do so by more than the
tolerance, so equality up to the tolerance is equality (`near_iff_eq`).
-/

namespace TextRepair.Score

@[simp] theorem ofNat_rat (n : Nat) : (ofNat n : Rat) = n :=
  Rat.mkRat_one n

theorem decimal_rat (mantissa places : Nat) :
    (decimal mantissa places : Rat) = (mantissa : Rat) / 10 ^ places := by
  have h : (decimal mantissa places : Rat) = mkRat mantissa (10 ^ places) := rfl
  rw [h, Rat.mkRat_eq_div]
  push_cast
  rfl

@[simp] theorem le_rat (a b : Rat) : le a b = true ↔ a ≤ b := by
  have h : le a b = !b.blt a := rfl
  rw [h, Bool.not_eq_true']
  rfl

@[simp] theorem lt_rat (a b : Rat) : lt a b = true ↔ a < b :=
  Iff.rfl

@[simp] theorem magnitude_rat (x : Rat) : magnitude x = |x| := by
  rw [Rat.abs_def]
  exact Rat.mkRat_eq_divInt ..

@[simp] theorem floor_rat (x : Rat) : floor x = ⌊x⌋₊ := rfl

theorem tolerance_rat : (tolerance : Rat) = 1 / 10 ^ 9 := by
  rw [tolerance, decimal_rat, Nat.cast_one]

theorem greatest_rat (a b : Rat) : greatest a b = max a b := by
  unfold greatest
  split_ifs with h
  · exact (max_eq_right ((lt_rat a b).mp h).le).symm
  · exact (max_eq_left (not_lt.mp fun hlt => h ((lt_rat a b).mpr hlt))).symm

theorem clamp_rat {x : Rat} (h0 : 0 ≤ x) (h1 : x ≤ 1) : clamp x = x := by
  simp only [clamp, lt_rat, ofNat_rat, Nat.cast_zero, Nat.cast_one]
  rw [if_neg h0.not_gt, if_neg h1.not_gt]

theorem clamp_eq_rat (x : Rat) : clamp x = max 0 (min x 1) := by
  simp only [clamp, lt_rat, ofNat_rat, Nat.cast_zero, Nat.cast_one]
  split_ifs with hneg hbig
  · rw [max_eq_left]
    exact (min_le_left x 1).trans hneg.le
  · rw [min_eq_right hbig.le, max_eq_right zero_le_one]
  · rw [min_eq_left (not_lt.mp hbig), max_eq_right (not_lt.mp hneg)]

theorem near_rat (a b : Rat) : near a b = true ↔ |a - b| ≤ 1 / 10 ^ 9 := by
  rw [near, le_rat, magnitude_rat, tolerance_rat]

theorem near_self_rat (a : Rat) : near a a = true := by
  rw [near_rat, sub_self, abs_zero]
  positivity

theorem reaches_rat (score bound : Rat) : reaches score bound = true ↔ bound ≤ score + 1 / 10 ^ 9 := by
  rw [reaches, le_rat, tolerance_rat]

/-! ### Fractions with small denominators -/

/-- One minus a fraction whose denominator is below 31000. -/
def IsFraction (x : Rat) : Prop :=
  ∃ d l : Nat, 0 < l ∧ l < 31000 ∧ x = 1 - (d : Rat) / l

theorem IsFraction.le_one {x : Rat} (hx : IsFraction x) : x ≤ 1 := by
  obtain ⟨d, l, hl, -, rfl⟩ := hx
  have : (0 : Rat) ≤ (d : Rat) / l := by positivity
  linarith

theorem isFraction_zero : IsFraction 0 :=
  ⟨1, 1, by decide, by decide, by norm_num⟩

theorem isFraction_one : IsFraction 1 :=
  ⟨0, 1, by decide, by decide, by norm_num⟩

theorem tolerance_mul_lt_one {l m : Nat} (hl : l < 31000) (hm : m < 31000) :
    (1 / 10 ^ 9 : Rat) * (l * m) < 1 := by
  have hbound : l * m ≤ 30999 * 30999 := Nat.mul_le_mul (by omega) (by omega)
  have hcast : ((l * m : Nat) : Rat) ≤ ((30999 * 30999 : Nat) : Rat) := Nat.cast_le.mpr hbound
  push_cast at hcast
  linarith

theorem le_add_tolerance_iff {a b : Rat} (ha : IsFraction a) (hb : IsFraction b) :
    a ≤ b + 1 / 10 ^ 9 ↔ a ≤ b := by
  obtain ⟨d, l, hl, hl', rfl⟩ := ha
  obtain ⟨e, m, hm, hm', rfl⟩ := hb
  have hlpos : (0 : Rat) < l := Nat.cast_pos.mpr hl
  have hmpos : (0 : Rat) < m := Nat.cast_pos.mpr hm
  have hsmall := tolerance_mul_lt_one hl' hm'
  refine ⟨fun h => ?_, fun h => h.trans (by norm_num)⟩
  have hcross : (e : Rat) * l < d * m + 1 := by
    have : (e : Rat) / m - d / l ≤ 1 / 10 ^ 9 := by linarith
    rw [div_sub_div _ _ hmpos.ne' hlpos.ne', div_le_iff₀ (by positivity)] at this
    linarith
  have hle : e * l ≤ d * m := by
    have : ((e * l : Nat) : Rat) < ((d * m + 1 : Nat) : Rat) := by
      push_cast
      exact hcross
    exact Nat.lt_succ_iff.mp (Nat.cast_lt.mp this)
  have hdiv : (e : Rat) / m ≤ d / l := by
    rw [div_le_div_iff₀ hmpos hlpos]
    exact_mod_cast hle
  linarith

theorem near_iff_eq {a b : Rat} (ha : IsFraction a) (hb : IsFraction b) :
    near a b = true ↔ a = b := by
  rw [near_rat, abs_le]
  constructor
  · rintro ⟨hlow, hhigh⟩
    exact le_antisymm ((le_add_tolerance_iff ha hb).mp (by linarith))
      ((le_add_tolerance_iff hb ha).mp (by linarith))
  · rintro rfl
    norm_num

/-- The bound on distances that belongs to a floor admits exactly the distances whose score reaches the
floor. -/
theorem le_distanceBound_iff {floor : Rat} (hfloor : IsFraction floor) {d l : Nat} (hl : 0 < l)
    (hl' : l < 31000) :
    d ≤ ⌊(1 - floor) * l + 1 / 10 ^ 9⌋₊ ↔ floor ≤ 1 - (d : Rat) / l := by
  have hlpos : (0 : Rat) < l := Nat.cast_pos.mpr hl
  have hfrac : IsFraction (1 - (d : Rat) / l) := ⟨d, l, hl, hl', rfl⟩
  have hnonneg : 0 ≤ (1 - floor) * l + 1 / 10 ^ 9 := by
    have := mul_nonneg (sub_nonneg.mpr hfloor.le_one) hlpos.le
    linarith
  have hdiv : (d : Rat) / l * l = d := div_mul_cancel₀ _ hlpos.ne'
  have hscaled : (1 - (d : Rat) / l) * l = l - d := by rw [sub_mul, one_mul, hdiv]
  rw [Nat.le_floor_iff hnonneg]
  constructor
  · intro h
    -- dividing by `l ≥ 1` makes the slack at most the tolerance
    refine (le_add_tolerance_iff hfloor hfrac).mp ?_
    have hone : (1 : Rat) ≤ l := Nat.one_le_cast.mpr hl
    refine le_of_mul_le_mul_right ?_ hlpos
    rw [add_mul, hscaled]
    linarith
  · intro h
    have hmul := mul_le_mul_of_nonneg_right h hlpos.le
    rw [hscaled] at hmul
    linarith

end TextRepair.Score
