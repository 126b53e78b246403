import Mathlib
import TextRepair.Score

/-!
# Finite binary scores

A binary number is near itself unless it is infinite or not a number (`near_self`). Bounds on exponents show
which results are finite: rounding raises the place of the first digit by at most one
(`exponentLe_roundWithAccuracy`), so sums, products and quotients of numbers of moderate size are of moderate
size again. Quotients need a divisor that is not too small, and positive whole numbers are not
(`ofNat_bounds`).
-/

namespace TextRepair.Score

open Float.Model Float.Model.UnpackedFloat

/-! ### Places of digits -/

theorem log2_le_of_le_succ {m r : Nat} (hr : r ≤ m + 1) : r.log2 ≤ m.log2 + 1 := by
  rcases Nat.eq_zero_or_pos r with rfl | hpos
  · simp
  · have hlt := Nat.lt_log2_self (n := m)
    rw [← Nat.lt_succ_iff, Nat.log2_lt hpos.ne', Nat.pow_succ]
    omega

theorem log2_div_add_le {m n : Nat} (h : m / n ≠ 0) : (m / n).log2 + n.log2 ≤ m.log2 := by
  obtain ⟨hn, hle⟩ : n ≠ 0 ∧ n ≤ m := by simpa [Nat.div_eq_zero_iff] using h
  have hm : m ≠ 0 := by omega
  rw [Nat.le_log2 hm, Nat.pow_add]
  exact (Nat.mul_le_mul (Nat.log2_self_le h) (Nat.log2_self_le hn)).trans (Nat.div_mul_le_self m n)

theorem log2_div_two_pow {m b : Nat} (hb : b ≤ m.log2) (hm : m ≠ 0) :
    (m / 2 ^ (m.log2 - b)).log2 = b := by
  have hlow := Nat.log2_self_le hm
  have hhigh := Nat.lt_log2_self (n := m)
  have hlow' : 2 ^ b ≤ m / 2 ^ (m.log2 - b) := by
    rw [Nat.le_div_iff_mul_le (Nat.two_pow_pos _), ← Nat.pow_add, Nat.add_sub_of_le hb]
    exact hlow
  have hhigh' : m / 2 ^ (m.log2 - b) < 2 ^ (b + 1) := by
    rw [Nat.div_lt_iff_lt_mul (Nat.two_pow_pos _), ← Nat.pow_add, Nat.add_right_comm, Nat.add_sub_of_le hb]
    exact hhigh
  have hne : m / 2 ^ (m.log2 - b) ≠ 0 := (lt_of_lt_of_le (Nat.two_pow_pos b) hlow').ne'
  exact (Nat.log2_eq_iff hne).mpr ⟨hlow', hhigh'⟩

theorem log2_mul_le {m n : Nat} (hm : m ≠ 0) (hn : n ≠ 0) : (m * n).log2 ≤ m.log2 + n.log2 + 1 := by
  have h := Nat.mul_lt_mul'' (Nat.lt_log2_self (n := m)) (Nat.lt_log2_self (n := n))
  rw [← Nat.lt_succ_iff, Nat.log2_lt (Nat.mul_ne_zero hm hn)]
  refine h.trans_eq ?_
  rw [← Nat.pow_add]
  congr 1
  omega

theorem le_log2_mul {m n : Nat} (hm : m ≠ 0) (hn : n ≠ 0) : m.log2 + n.log2 ≤ (m * n).log2 := by
  rw [Nat.le_log2 (Nat.mul_ne_zero hm hn), Nat.pow_add]
  exact Nat.mul_le_mul (Nat.log2_self_le hm) (Nat.log2_self_le hn)

theorem log2_shiftLeft {m : Nat} (hm : m ≠ 0) (k : Nat) : (m <<< k).log2 = m.log2 + k := by
  have hne : m * 2 ^ k ≠ 0 := Nat.mul_ne_zero hm (Nat.two_pow_pos k).ne'
  rw [Nat.shiftLeft_eq, Nat.log2_eq_iff hne, Nat.pow_add, Nat.add_right_comm, Nat.pow_add]
  exact ⟨Nat.mul_le_mul_right _ (Nat.log2_self_le hm),
    Nat.mul_lt_mul_of_pos_right Nat.lt_log2_self (Nat.two_pow_pos k)⟩

/-! ### Rounding -/

/-- How many digits rounding drops. -/
def dropped (m : Nat) (e : Int) : Nat :=
  (max ((m.log2 : Int) + e - 52) (-1074) - e).toNat

theorem add_dropped (m : Nat) (e : Int) :
    e + (dropped m e : Int) = max e (max ((m.log2 : Int) + e - 52) (-1074)) := by
  unfold dropped
  omega

theorem shiftToTargetExponent_eq (m : Nat) (e : Int) (accuracy : Accuracy) :
    shiftToTargetExponent Format.binary64 m e accuracy
      = (ExtendedMantissa.ofMantissaAndAccuracy m accuracy >>> dropped m e, e + dropped m e) := by
  have htarget : Format.binary64.targetExponent (totalExponent m e)
      = max ((m.log2 : Int) + e - 52) (-1074) := by
    simp only [Format.targetExponent, totalExponent, Format.mantissaBits, Format.minExponent]
    omega
  rw [shiftToTargetExponent, htarget]
  rfl

theorem mantissa_shiftRight (em : ExtendedMantissa) (k : Nat) :
    (em >>> k).mantissa = em.mantissa / 2 ^ k := by
  induction k with
  | zero => exact (Nat.div_one _).symm
  | succ k ih =>
    show (em >>> k).mantissa / 2 = _
    rw [ih, Nat.div_div_eq_div_mul, Nat.pow_succ]

theorem mantissa_ofMantissaAndAccuracy (m : Nat) (accuracy : Accuracy) :
    (ExtendedMantissa.ofMantissaAndAccuracy m accuracy).mantissa = m := by
  unfold ExtendedMantissa.ofMantissaAndAccuracy
  split <;> rfl

theorem roundedMantissa_bounds (em : ExtendedMantissa) :
    em.mantissa ≤ em.roundedMantissa ∧ em.roundedMantissa ≤ em.mantissa + 1 := by
  unfold ExtendedMantissa.roundedMantissa Accuracy.roundToNearestEven
  split <;> omega

/-- What rounding leaves of a whole number of which it drops `n` digits. -/
def kept (m n : Nat) (accuracy : Accuracy) : Nat :=
  (ExtendedMantissa.ofMantissaAndAccuracy m accuracy >>> n).roundedMantissa

theorem kept_bounds (m n : Nat) (accuracy : Accuracy) :
    m / 2 ^ n ≤ kept m n accuracy ∧ kept m n accuracy ≤ m / 2 ^ n + 1 := by
  have hbounds := roundedMantissa_bounds (ExtendedMantissa.ofMantissaAndAccuracy m accuracy >>> n)
  rwa [mantissa_shiftRight, mantissa_ofMantissaAndAccuracy] at hbounds

/-- Rounding drops digits, goes up by one or not, and then drops a digit that this may have added. -/
theorem roundWithAccuracy_cases (s : Sign) (m : Nat) (e : Int) (accuracy : Accuracy) :
    ∃ r k, r = kept m (dropped m e) accuracy ∧ k = dropped r (e + dropped m e) ∧
      (roundWithAccuracy Format.binary64 s m e accuracy = .zero s ∧ r / 2 ^ k = 0 ∨
        ∃ hpos, roundWithAccuracy Format.binary64 s m e accuracy
          = .finite s (r / 2 ^ k) (e + dropped m e + k) hpos) := by
  refine ⟨_, _, rfl, rfl, ?_⟩
  simp only [roundWithAccuracy, shiftToTargetExponent_eq, mantissa_shiftRight, mantissa_ofMantissaAndAccuracy]
  split_ifs with hzero
  · exact .inl ⟨rfl, hzero⟩
  · exact .inr ⟨Nat.pos_of_ne_zero hzero, rfl⟩

/-- Zero, or finite with an exponent of at most `t`. -/
def ExponentLe (t : Int) : UnpackedFloat → Prop
  | .zero _ => True
  | .finite _ _ e _ => e ≤ t
  | .infinity _ | .notANumber => False

/-- Finite with 53 digits and an exponent of at least `t`. -/
def ExponentGe (t : Int) : UnpackedFloat → Prop
  | .finite _ m e _ => m.log2 = 52 ∧ t ≤ e
  | .zero _ | .infinity _ | .notANumber => False

theorem exponentLe_roundWithAccuracy (s : Sign) {m : Nat} {e : Int} (accuracy : Accuracy) {t : Int}
    (ht : -1074 < t) (hm : m.log2 + e < t) :
    ExponentLe t (roundWithAccuracy Format.binary64 s m e accuracy) := by
  have hfirst := add_dropped m e
  obtain ⟨r, k, hr, rfl, ⟨hround, -⟩ | ⟨hpos, hround⟩⟩ := roundWithAccuracy_cases s m e accuracy
  · rw [hround]
    trivial
  rw [hround]
  change e + dropped m e + dropped r (e + dropped m e) ≤ t
  rw [add_dropped]
  have hlog := log2_le_of_le_succ (hr ▸ (kept_bounds m (dropped m e) accuracy).2)
  by_cases hzero : m / 2 ^ dropped m e = 0
  · rw [hzero, Nat.log2_zero] at hlog
    omega
  · have hdrop := log2_div_add_le hzero
    rw [Nat.log2_two_pow] at hdrop
    omega

theorem exponentGe_roundWithAccuracy (s : Sign) {m : Nat} {e : Int} (accuracy : Accuracy) {t : Int}
    (hm : 52 ≤ m.log2) (he : -1074 ≤ e) (ht : t ≤ m.log2 + e - 52) :
    ExponentGe t (roundWithAccuracy Format.binary64 s m e accuracy) := by
  have hm0 : m ≠ 0 := by
    rintro rfl
    simp at hm
  have hdropped : dropped m e = m.log2 - 52 := by
    unfold dropped
    omega
  obtain ⟨r, k, hr, hk, hcases⟩ := roundWithAccuracy_cases s m e accuracy
  rw [hdropped] at hr hk hcases
  have hlow : m / 2 ^ (m.log2 - 52) ≤ r := hr ▸ (kept_bounds m (m.log2 - 52) accuracy).1
  have hlog := log2_div_two_pow hm hm0
  have hne : m / 2 ^ (m.log2 - 52) ≠ 0 := by
    intro h
    rw [h] at hlog
    simp at hlog
  have hr0 : r ≠ 0 := (Nat.lt_of_lt_of_le (Nat.pos_of_ne_zero hne) hlow).ne'
  have hrlow : 52 ≤ r.log2 := by
    rw [Nat.le_log2 hr0, ← hlog]
    exact (Nat.log2_self_le hne).trans hlow
  have hrk : k = r.log2 - 52 := by
    unfold dropped at hk
    omega
  have hfinal := log2_div_two_pow hrlow hr0
  rw [← hrk] at hfinal
  rcases hcases with ⟨-, hzero⟩ | ⟨hpos, hround⟩
  · rw [hzero] at hfinal
    simp at hfinal
  · rw [hround]
    refine ⟨hfinal, ?_⟩
    omega

theorem round_eq (s : Sign) (m : Nat) (e : Int) :
    ∃ k : Nat, (k : Int) = max (e - max ((m.log2 : Int) + e - 52) (-1074)) 0 ∧
      round Format.binary64 s m e = roundWithAccuracy Format.binary64 s (m <<< k) (e - k) .exact := by
  refine ⟨(e - Format.binary64.targetExponent (totalExponent m e)).toNat, ?_, rfl⟩
  simp only [Format.targetExponent, totalExponent, Format.mantissaBits, Format.minExponent]
  omega

theorem exponentLe_round (s : Sign) {m : Nat} {e t : Int} (hne : m ≠ 0) (ht : -1074 < t)
    (hm : m.log2 + e < t) : ExponentLe t (round Format.binary64 s m e) := by
  obtain ⟨k, -, hround⟩ := round_eq s m e
  rw [hround]
  refine exponentLe_roundWithAccuracy s .exact ht ?_
  rw [log2_shiftLeft hne]
  omega

theorem exponentGe_round (s : Sign) {m : Nat} {e t : Int} (hne : m ≠ 0) (he : -1022 ≤ e)
    (ht : t ≤ m.log2 + e - 52) : ExponentGe t (round Format.binary64 s m e) := by
  obtain ⟨k, hk, hround⟩ := round_eq s m e
  have hlog := log2_shiftLeft hne k
  rw [hround]
  refine exponentGe_roundWithAccuracy s .exact ?_ ?_ ?_ <;> omega

theorem exponentLe_normalize {m e t : Int} (ht : -1074 < t) (hm : m.natAbs.log2 + e < t) (s : Sign) :
    ExponentLe t (UnpackedFloat.normalize Format.binary64 m e s) := by
  unfold UnpackedFloat.normalize
  split
  · next hlt =>
    have hneg := Int.compare_eq_lt.mp hlt
    have habs : m.natAbs = (-m).toNat := by omega
    exact exponentLe_round .negative (by omega) ht (habs ▸ hm)
  · trivial
  · next hgt =>
    have hpos := Int.compare_eq_gt.mp hgt
    have habs : m.natAbs = m.toNat := by omega
    exact exponentLe_round .positive (by omega) ht (habs ▸ hm)

/-! ### Packing -/

/-- Zero, or finite with at most 53 digits and an exponent of at most `t`. -/
def Within (t : Int) (x : Float) : Prop :=
  (∃ s, x.toModel.unpack = .zero s) ∨
    ∃ s m e hpos, x.toModel.unpack = .finite s m e hpos ∧ m.log2 ≤ 52 ∧ e ≤ t

/-- Finite, not zero and with an exponent of at least `t`. -/
def Beyond (t : Int) (x : Float) : Prop :=
  ∃ s m e hpos, x.toModel.unpack = .finite s m e hpos ∧ t ≤ e

theorem Within.isFinite {t : Int} {x : Float} (h : Within t x) : x.isFinite = true := by
  show x.toModel.unpack.isFinite = true
  rcases h with ⟨s, h⟩ | ⟨s, m, e, hpos, h, -, -⟩ <;> rw [h] <;> rfl

theorem pack_eq {s : Sign} {m : Nat} {e : Int} (hm : 0 < m) (he : e ≤ 971) :
    UnpackedFloat.pack Format.binary64 (.finite s m e hm)
      = packComponents Format.binary64 s (BitVec.ofNat 11 (if m.log2 = 52 then (e + 1075).toNat else 0))
          (BitVec.ofNat 52 m) := by
  have hbias : (e + Format.binary64.exponentBias + Format.binary64.mantissaBitsWithoutImplicit)
      = e + 1075 := by
    change e + 1023 + 52 = e + 1075
    omega
  have hfits : ¬2 ^ Format.binary64.exponentBits ≤ (e + 1075).toNat + 1 := by
    change ¬2048 ≤ (e + 1075).toNat + 1
    omega
  have hdigits : m.log2 + 1 = Format.binary64.mantissaBits ↔ m.log2 = 52 := by
    change m.log2 + 1 = 53 ↔ m.log2 = 52
    omega
  simp only [UnpackedFloat.pack, hbias, if_neg hfits, hdigits]
  split_ifs <;> rfl

theorem unpackExponent_pack {s : Sign} {m : Nat} {e : Int} (hm : 0 < m) (he : e ≤ 971) :
    unpackExponent (UnpackedFloat.pack Format.binary64 (.finite s m e hm))
      = BitVec.ofNat 11 (if m.log2 = 52 then (e + 1075).toNat else 0) := by
  rw [pack_eq hm he]
  exact unpackExponent_packComponents

theorem toNat_append_pos (v : BitVec 52) : 0 < (1#1 ++ v).toNat := by
  rw [BitVec.toNat_append]
  exact Nat.lt_of_lt_of_le (by decide) Nat.left_le_or

theorem log2_append_le (v : BitVec 52) : (1#1 ++ v).toNat.log2 ≤ 52 :=
  Nat.lt_succ_iff.mp ((Nat.log2_lt (toNat_append_pos v).ne').mpr (1#1 ++ v).isLt)

theorem log2_toNat_le (v : BitVec 52) : v.toNat.log2 ≤ 52 := by
  rcases Nat.eq_zero_or_pos v.toNat with hzero | hpos
  · rw [hzero]
    decide
  · exact ((Nat.log2_lt hpos.ne').mpr v.isLt).le

theorem unpack_of_exponent {b : BitVec Format.binary64.numBits} {n : Nat} (hn : n < 2047)
    (hexponent : unpackExponent b = BitVec.ofNat 11 n) :
    (n = 0 ∧ ∃ s, UnpackedFloat.unpack Format.binary64 b = .zero s) ∨
      ∃ s m e hpos, UnpackedFloat.unpack Format.binary64 b = .finite s m e hpos ∧ m.log2 ≤ 52 ∧
        e = max ((n : Int) - 1075) (-1074) := by
  have hfield : (BitVec.ofNat 11 n).toNat = n := by
    rw [BitVec.toNat_ofNat]
    omega
  have hnot : ¬BitVec.ofNat 11 n = -1#11 := by
    intro h
    rw [h] at hfield
    change 2047 = n at hfield
    omega
  have hzero : BitVec.ofNat 11 n = 0#11 ↔ n = 0 := by
    rw [← BitVec.toNat_inj, hfield]
    rfl
  have hbias : ((Format.binary64.exponentBias : Int) + (Format.binary64.mantissaBitsWithoutImplicit : Nat))
      = 1075 := rfl
  simp only [UnpackedFloat.unpack, hexponent, hbias]
  rw [if_neg hnot]
  split_ifs with hsub hempty
  · exact .inl ⟨hzero.mp hsub, _, rfl⟩
  · have hn0 := hzero.mp hsub
    have hpos : 0 < (unpackMantissa b).toNat :=
      Nat.pos_of_ne_zero fun h => hempty (BitVec.eq_of_toNat_eq h)
    exact .inr ⟨_, _, _, hpos, rfl, log2_toNat_le _, by rw [hfield]; omega⟩
  · have hn0 := mt hzero.mpr hsub
    exact .inr ⟨_, _, _, toNat_append_pos _, rfl, log2_append_le _, by rw [hfield]; omega⟩

theorem within_pack {f : UnpackedFloat} {t : Int} (hlow : -1074 ≤ t) (hhigh : t ≤ 971)
    (hf : ExponentLe t f) : Within t (.ofModel (.pack f)) := by
  cases f with
  | infinity s => exact hf.elim
  | notANumber => exact hf.elim
  | zero s => exact .inl ⟨s, by cases s <;> rfl⟩
  | finite s m e hm =>
    change e ≤ t at hf
    have hexponent := unpackExponent_pack (s := s) hm (hf.trans hhigh)
    have hfield : (if m.log2 = 52 then (e + 1075).toNat else 0) < 2047 := by
      split_ifs <;> omega
    rcases unpack_of_exponent hfield hexponent with ⟨-, s', hunpack⟩ | ⟨s', m', e', hpos, hunpack, hdigits, he'⟩
    · exact .inl ⟨s', hunpack⟩
    · refine .inr ⟨s', m', e', hpos, hunpack, hdigits, ?_⟩
      rw [he']
      split_ifs <;> omega

theorem beyond_pack {f : UnpackedFloat} {t : Int} (hlow : -1074 ≤ t) (hle : ExponentLe 971 f)
    (hf : ExponentGe t f) : Beyond t (.ofModel (.pack f)) := by
  cases f with
  | infinity s => exact hf.elim
  | notANumber => exact hf.elim
  | zero s => exact hf.elim
  | finite s m e hm =>
    obtain ⟨hdigits, hge⟩ := hf
    have hexponent := unpackExponent_pack (s := s) hm hle
    rw [if_pos hdigits] at hexponent
    change e ≤ 971 at hle
    rcases unpack_of_exponent (by omega) hexponent with ⟨hzero, -⟩ | ⟨s', m', e', hpos, hunpack, -, he'⟩
    · omega
    · exact ⟨s', m', e', hpos, hunpack, by omega⟩

/-! ### Arithmetic -/

theorem within_div {x y : Float} {t u : Int} (hx : Within t x) (hy : Beyond u y)
    (hlow : -1074 ≤ t - u) (hhigh : t - u + 53 ≤ 971) : Within (t - u + 53) (x / y) := by
  refine within_pack (f := UnpackedFloat.div Format.binary64 x.toModel.unpack y.toModel.unpack)
    (by omega) hhigh ?_
  obtain ⟨s₂, m₂, e₂, hm₂, hy, he₂⟩ := hy
  rcases hx with ⟨s₁, hx⟩ | ⟨s₁, m₁, e₁, hm₁, hx, hdigits, he₁⟩
  · rw [hx, hy]
    trivial
  · rw [hx, hy]
    refine exponentLe_roundWithAccuracy _ _ (by omega) ?_
    generalize Format.binary64.targetExponent (totalExponent m₁ e₁ - totalExponent m₂ e₂) = target
    generalize hk : (e₁ - e₂ - min (e₁ - e₂) target).toNat = k
    have hshift := log2_shiftLeft hm₁.ne' k
    by_cases hzero : m₁ <<< k / m₂ = 0
    · rw [hzero, Nat.log2_zero]
      omega
    · have hdiv := log2_div_add_le hzero
      omega

theorem within_mul {x y : Float} {t u : Int} (hx : Within t x) (hy : Within u y)
    (hlow : -1074 ≤ t + u) (hhigh : t + u + 106 ≤ 971) : Within (t + u + 106) (x * y) := by
  refine within_pack (f := UnpackedFloat.mul Format.binary64 x.toModel.unpack y.toModel.unpack)
    (by omega) hhigh ?_
  rcases hx with ⟨s₁, hx⟩ | ⟨s₁, m₁, e₁, hm₁, hx, hdigits₁, he₁⟩
  · rcases hy with ⟨s₂, hy⟩ | ⟨s₂, m₂, e₂, hm₂, hy, -, -⟩ <;> rw [hx, hy] <;> trivial
  · rcases hy with ⟨s₂, hy⟩ | ⟨s₂, m₂, e₂, hm₂, hy, hdigits₂, he₂⟩
    · rw [hx, hy]
      trivial
    · rw [hx, hy]
      have hlog := log2_mul_le hm₁.ne' hm₂.ne'
      have hplace : ((m₁ * m₂).log2 : Int) + (e₁ + e₂) < t + u + 106 := by omega
      exact exponentLe_roundWithAccuracy (s₁ * s₂) .exact (by omega) hplace

theorem log2_natAbs_sub_le {a b n : Nat} (ha : a.log2 ≤ n) (hb : b.log2 ≤ n) (s₁ s₂ : Sign) :
    (s₁.apply (a : Int) - s₂.apply (b : Int)).natAbs.log2 ≤ n + 1 := by
  have ha' : a < 2 ^ (n + 1) :=
    Nat.lt_log2_self.trans_le (Nat.pow_le_pow_right Nat.two_pos (Nat.succ_le_succ ha))
  have hb' : b < 2 ^ (n + 1) :=
    Nat.lt_log2_self.trans_le (Nat.pow_le_pow_right Nat.two_pos (Nat.succ_le_succ hb))
  have hsum : (s₁.apply (a : Int) - s₂.apply (b : Int)).natAbs ≤ a + b := by
    cases s₁ <;> cases s₂ <;> simp only [Sign.apply] <;> omega
  rcases Nat.eq_zero_or_pos (s₁.apply (a : Int) - s₂.apply (b : Int)).natAbs with hzero | hpos
  · rw [hzero]
    simp
  · refine Nat.lt_succ_iff.mp ((Nat.log2_lt hpos.ne').mpr ?_)
    rw [Nat.pow_succ]
    omega

theorem within_sub {x y : Float} {t : Int} (hx : Within t x) (hy : Within t y)
    (hlow : -1074 ≤ t) (hhigh : t + 54 ≤ 971) : Within (t + 54) (x - y) := by
  refine within_pack (f := UnpackedFloat.sub Format.binary64 x.toModel.unpack y.toModel.unpack)
    (by omega) hhigh ?_
  rcases hx with ⟨s₁, hx⟩ | ⟨s₁, m₁, e₁, hm₁, hx, hdigits₁, he₁⟩
  · rcases hy with ⟨s₂, hy⟩ | ⟨s₂, m₂, e₂, hm₂, hy, -, he₂⟩
    · rw [hx, hy]
      cases s₁ <;> cases s₂ <;> trivial
    · rw [hx, hy]
      show e₂ ≤ t + 54
      omega
  · rcases hy with ⟨s₂, hy⟩ | ⟨s₂, m₂, e₂, hm₂, hy, hdigits₂, he₂⟩
    · rw [hx, hy]
      show e₁ ≤ t + 54
      omega
    · rw [hx, hy]
      refine exponentLe_normalize (by omega) ?_ _
      -- both mantissas are moved to the smaller exponent, so that their first digits keep their places
      have hleft := log2_shiftLeft hm₁.ne' (e₁ - min e₁ e₂).toNat
      have hright := log2_shiftLeft hm₂.ne' (e₂ - min e₁ e₂).toNat
      have hlog := log2_natAbs_sub_le (n := (t + 52 - min e₁ e₂).toNat) (by rw [hleft]; omega)
        (by rw [hright]; omega) s₁ s₂
      refine lt_of_le_of_lt (add_le_add_left (Int.ofNat_le.mpr hlog) _) ?_
      omega

/-- Without the infinities and what is not a number, a difference of equal numbers is zero. -/
theorem near_self {x : Float} (hx : x.isFinite = true) : near x x = true := by
  have hsub : UnpackedFloat.sub Format.binary64 x.toModel.unpack x.toModel.unpack = .zero .positive := by
    change x.toModel.unpack.isFinite = true at hx
    generalize x.toModel.unpack = f at hx
    cases f with
    | infinity s => cases hx
    | notANumber => cases hx
    | zero s => cases s <;> rfl
    | finite s m e hm =>
      simp only [UnpackedFloat.sub, Int.sub_self]
      rfl
  have hzero : x - x = .ofModel (.pack (.zero .positive)) := by
    show Float.ofModel (.pack (UnpackedFloat.sub Format.binary64 x.toModel.unpack x.toModel.unpack)) = _
    rw [hsub]
  rw [near, hzero]
  decide +kernel

/-! ### Whole numbers -/

theorem toNat_toUInt64 {n : Nat} (hn : n < 2 ^ 64) : n.toUInt64.toNat = n := by
  rw [Nat.toUInt64_eq, UInt64.toNat_ofNat']
  exact Nat.mod_eq_of_lt hn

theorem toFloat_bounds {n : Nat} (hpos : 0 < n) (hn : n < 2 ^ 64) :
    Within 64 n.toUInt64.toFloat ∧ Beyond (-52) n.toUInt64.toFloat := by
  have hlog : n.log2 < 64 := (Nat.log2_lt hpos.ne').mpr hn
  have hround : UnpackedFloat.ofUInt64 Format.binary64 n.toUInt64 = round Format.binary64 .positive n 0 := by
    rw [UnpackedFloat.ofUInt64, UnpackedFloat.ofNat, UnpackedFloat.ofInt, toNat_toUInt64 hn,
      UnpackedFloat.normalize, Int.compare_eq_gt.mpr (Int.natCast_pos.mpr hpos)]
    rfl
  have hle (t : Int) (ht : 64 ≤ t) : ExponentLe t (round Format.binary64 .positive n 0) :=
    exponentLe_round .positive hpos.ne' (by omega) (by omega)
  constructor
  · exact within_pack (by decide) (by decide) (hround ▸ hle 64 le_rfl)
  · exact beyond_pack (by decide) (hround ▸ hle 971 (by decide))
      (hround ▸ exponentGe_round .positive hpos.ne' (by decide) (by omega))

theorem unpack_one : (Float.ofBits 0x3FF0000000000000).toModel.unpack
    = .finite .positive (2 ^ 52) (-52) (Nat.two_pow_pos 52) := by
  rfl

theorem beyond_mul_one {x : Float} {t u : Int} (hx : Within u x) (hu : u ≤ 800) (hx' : Beyond t x)
    (ht : -1022 ≤ t) : Beyond (t - 52) (x * Float.ofBits 0x3FF0000000000000) := by
  obtain ⟨s, m, e, hm, hunpack, he⟩ := hx'
  obtain ⟨hdigits, he'⟩ : m.log2 ≤ 52 ∧ e ≤ u := by
    rcases hx with ⟨s', hx⟩ | ⟨s', m', e', hm', hx, hx'⟩
    · rw [hunpack] at hx
      cases hx
    · rw [hunpack] at hx
      cases hx
      exact hx'
  have hmul : x * Float.ofBits 0x3FF0000000000000 = .ofModel (.pack
      (roundWithAccuracy Format.binary64 (s * .positive) (m * 2 ^ 52) (e + -52) .exact)) := by
    show Float.ofModel (.pack (UnpackedFloat.mul Format.binary64 x.toModel.unpack
      (Float.ofBits 0x3FF0000000000000).toModel.unpack)) = _
    rw [hunpack, unpack_one]
    rfl
  have hlow := le_log2_mul hm.ne' (Nat.two_pow_pos 52).ne'
  have hhigh := log2_mul_le hm.ne' (Nat.two_pow_pos 52).ne'
  rw [Nat.log2_two_pow] at hlow hhigh
  generalize m * 2 ^ 52 = n at hmul hlow hhigh
  rw [hmul]
  exact beyond_pack (by omega) (exponentLe_roundWithAccuracy _ .exact (by decide) (by omega))
    (exponentGe_roundWithAccuracy _ .exact (by omega) (by omega) (by omega))

theorem ofNat_of_lt {n : Nat} (hn : n < 2 ^ 53) :
    Float.ofNat n = n.toUInt64.toFloat * Float.ofBits 0x3FF0000000000000 := by
  show Float.ofScientific n false 0 = _
  rw [Float.ofScientific, dif_pos ⟨hn, Nat.zero_le 22⟩]
  rfl

theorem ofNat_of_le {n : Nat} (hn : 2 ^ 53 ≤ n) :
    Float.ofNat n = .ofModel (.pack (roundWithAccuracy Format.binary64 .positive (n <<< 53 * 1) (-53) .exact)) := by
  show Float.ofScientific n false 0 = _
  rw [Float.ofScientific, dif_neg fun h => absurd h.1 (Nat.not_lt.mpr hn)]
  show Float.ofModel (.pack (UnpackedFloat.ofScientific Format.binary64 n 0)) = _
  have hne : n ≠ 0 := (lt_of_lt_of_le (Nat.two_pow_pos 53) hn).ne'
  have hleast : ¬(0 : Int) < -((2 : Int) ^ Format.binary64.exponentBits + n.log2) := by
    have hbits : (2 : Int) ^ Format.binary64.exponentBits = 2048 := rfl
    omega
  rw [UnpackedFloat.ofScientific, dif_neg hne, if_neg (by decide), if_neg hleast, if_pos le_rfl]
  rfl

theorem ofNat_bounds {n : Nat} (hpos : 0 < n) (hn : n < 2 ^ 64) :
    Within 118 (Float.ofNat n) ∧ Beyond (-104) (Float.ofNat n) := by
  rcases Nat.lt_or_ge n (2 ^ 53) with hlt | hge
  · obtain ⟨hwithin, hbeyond⟩ := toFloat_bounds hpos hn
    have hone : Within (-52) (Float.ofBits 0x3FF0000000000000) :=
      .inr ⟨_, _, _, _, unpack_one, Nat.log2_two_pow.le, le_rfl⟩
    rw [ofNat_of_lt hlt]
    exact ⟨within_mul hwithin hone (by decide) (by decide), beyond_mul_one hwithin (by decide) hbeyond (by decide)⟩
  · have hlog := log2_shiftLeft hpos.ne' 53
    have hlog64 : n.log2 < 64 := (Nat.log2_lt hpos.ne').mpr hn
    rw [ofNat_of_le hge, Nat.mul_one]
    generalize n <<< 53 = m at hlog
    have hle (t : Int) (ht : 64 ≤ t) :
        ExponentLe t (roundWithAccuracy Format.binary64 .positive m (-53) .exact) :=
      exponentLe_roundWithAccuracy .positive .exact (by omega) (by omega)
    exact ⟨within_pack (by decide) (by decide) (hle 118 (by decide)),
      beyond_pack (by decide) (hle 971 (by decide))
        (exponentGe_roundWithAccuracy .positive .exact (by omega) (by decide) (by omega))⟩

theorem within_ofNat {n : Nat} (hn : n < 2 ^ 64) : Within 118 (Float.ofNat n) := by
  rcases Nat.eq_zero_or_pos n with rfl | hpos
  · exact .inl ⟨.positive, rfl⟩
  · exact (ofNat_bounds hpos hn).1

theorem isFinite_blankCap_sub {k n : Nat} (hk : k < 2 ^ 64) (hpos : 0 < n) (hn : n < 2 ^ 64) :
    (blankCap - decimal 1 1 * (ofNat k / ofNat n) : Float).isFinite = true := by
  have hcap : Within 325 blankCap :=
    .inr ⟨.positive, 0x1ccccccccccccd, -53, by decide, rfl, by decide, by decide⟩
  have htenth : Within (-56) (decimal 1 1) :=
    .inr ⟨.positive, 0x1999999999999a, -56, by decide, rfl, by decide, by decide⟩
  have hshare : Within 275 (ofNat k / ofNat n : Float) :=
    within_div (within_ofNat hk) (ofNat_bounds hpos hn).2 (by decide) (by decide)
  exact (within_sub hcap (within_mul htenth hshare (by decide) (by decide)) (by decide) (by decide)).isFinite

end TextRepair.Score
