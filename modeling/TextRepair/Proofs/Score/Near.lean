import TextRepair.Options
import TextRepair.Proofs.Score.Rounding

/-!
# Binary scores near one

A score that is near another one is finite (`isFinite_of_near`), and one that is near 1 comes up to every
threshold (`reaches_of_near`): what a score from one half on lacks to 1 is computed exactly
(`exists_value_sub_one`). One less a share of whole numbers is at most 1, since shares have no minus
(`one_sub_share`).
-/

namespace TextRepair.Score

open Float.Model Float.Model.UnpackedFloat

/-! ### Near one -/

theorem value_one : value (ofNat 1) = 1 := by
  rw [value_of_unpack (f := .finite .positive (2 ^ 52) (-52) (by decide)) rfl, unpackedValue]
  norm_num [Sign.apply]

theorem within_one : Within (-52) (ofNat 1) :=
  .inr ⟨.positive, 2 ^ 52, -52, by decide, rfl, by decide, by decide⟩

theorem within_tolerance : Within (-82) tolerance :=
  .inr ⟨.positive, 0x112e0be826d695, -82, by decide, rfl, by decide, by decide⟩

theorem value_tolerance : 0 < value tolerance ∧ value tolerance < 1 / 2 := by
  rw [value_of_unpack (f := .finite .positive 0x112e0be826d695 (-82) (by decide)) rfl, unpackedValue]
  norm_num [Sign.apply]

theorem value_magnitude {x : Float} (hx : x.isFinite = true) :
    (magnitude x).isFinite = true ∧ value (magnitude x) = |value x| := by
  have habs : magnitude x = .ofModel (.pack x.toModel.unpack.abs) := rfl
  rw [habs]
  rcases unpack_cases hx with ⟨s, hunpack⟩ | ⟨s, m, e, hm, hunpack, h⟩ <;>
    rw [value_of_unpack hunpack, hunpack]
  · exact ⟨(rounds_zero .positive).finite, (value_zero .positive).trans abs_zero.symm⟩
  · refine ⟨(rounds_finite .positive hm h).finite, ?_⟩
    rw [UnpackedFloat.abs, value_of_unpack (unpack_pack hm h)]
    cases s <;> simp [unpackedValue, Sign.apply, abs_mul]

theorem exists_value_sub_one {x : Float} (hx : x.isFinite = true) (hlow : 1 / 2 ≤ value x) (hhigh : value x ≤ 1) :
    ∃ z : Float, z.isFinite = true ∧ value z = value x - 1 := by
  rcases unpack_cases hx with ⟨s, hunpack⟩ | ⟨s, m, e, hm, hunpack, h⟩
  · rw [value_of_unpack hunpack, unpackedValue] at hlow
    norm_num at hlow
  rw [value_of_unpack hunpack] at hlow hhigh ⊢
  have hpos : (0 : Rat) < m * 2 ^ e := by positivity
  cases s with
  | negative =>
    simp only [unpackedValue, Sign.apply, Int.cast_neg, Int.cast_natCast, neg_mul] at hlow
    linarith
  | positive =>
    simp only [unpackedValue, Sign.apply, Int.cast_natCast] at hlow hhigh ⊢
    have he : -53 ≤ e := by
      have hm53 : (m : Rat) < 2 ^ 53 := by exact_mod_cast h.lt
      have hlt : (2 : Rat) ^ (-1 : Int) < 2 ^ (53 + e) := by
        calc (2 : Rat) ^ (-1 : Int) = 1 / 2 := by norm_num
          _ ≤ m * 2 ^ e := hlow
          _ < 2 ^ 53 * 2 ^ e := by gcongr
          _ = 2 ^ (53 + e) := by rw [zpow_add₀ two_ne_zero, zpow_ofNat]
      have := (zpow_lt_zpow_iff_right₀ one_lt_two).mp hlt
      omega
    -- both numbers are counted in units of the last place below one
    obtain ⟨n, hn⟩ : ∃ n : Nat, (m : Rat) * 2 ^ e = n * 2 ^ (-53 : Int) := by
      refine ⟨m * 2 ^ (e + 53).toNat, ?_⟩
      rw [Nat.cast_mul, Nat.cast_pow, Nat.cast_ofNat, mul_assoc, ← zpow_natCast, ← zpow_add₀ two_ne_zero]
      congr 2
      omega
    rw [hn] at hpos hhigh ⊢
    have hunit : (2 : Rat) ^ (-53 : Int) * 2 ^ 53 = 1 := by norm_num
    have hn0 : n ≠ 0 := by
      rintro rfl
      simp at hpos
    have hn53 : n ≤ 2 ^ 53 := by
      have : (n : Rat) ≤ 2 ^ 53 := by nlinarith
      exact_mod_cast this
    obtain ⟨z, hz, hvalue⟩ := exists_value_eq .negative (m := 2 ^ 53 - n) (e := -53) (by omega) (by omega) (by omega)
    refine ⟨z, hz, ?_⟩
    rw [hvalue, Sign.apply, Int.cast_neg, Int.cast_natCast, Nat.cast_sub hn53]
    push_cast
    linarith

theorem one_le_of_near {x y : Float} {t : Int} (hx : Within t x) (hy : Within t y) (ht : t ≤ 917)
    (hone : value y = 1) (hnear : near x y = true) : 1 ≤ value x + value (tolerance : Float) := by
  have hsub := rounds_sub hx hy ht
  obtain ⟨hfinite, habs⟩ := value_magnitude hsub.finite
  rw [near, le_iff_value_le hfinite within_tolerance.isFinite, habs] at hnear
  obtain ⟨htolerance, hhalf⟩ := value_tolerance
  rcases lt_or_ge 1 (value x) with hgt | hle
  · linarith
  rcases lt_or_ge (value x) (1 / 2) with hlt | hge
  · -- then a number below minus one half would be near zero
    obtain ⟨z, hz, hvalue⟩ := exists_value_eq .negative (m := 1) (e := -1) (by omega) (by omega) (by omega)
    have hvalue : value z = -(1 / 2) := by rw [hvalue]; norm_num [Sign.apply]
    have := hsub.le hz (by rw [hvalue, hone]; linarith)
    have := neg_le_of_abs_le hnear
    linarith
  · obtain ⟨z, hz, hvalue⟩ := exists_value_sub_one hx.isFinite hge hle
    have hexact := value_sub_eq hx hy ht hz (by rw [hvalue, hone])
    rw [hexact, hone] at hnear
    have := neg_le_of_abs_le hnear
    linarith

theorem value_le_of_isThreshold {x : Float} (hx : Options.isThreshold x = true) :
    x.isFinite = true ∧ value x ≤ 1 := by
  obtain ⟨hlow, hhigh⟩ := (Bool.and_eq_true _ _).mp hx
  have hlt : (UnpackedFloat.zero .positive).lt x.toModel.unpack = true := by
    have : decide (decide ((ofNat 0 : Float).toModel < x.toModel) = true) = true := hlow
    rwa [decide_eq_true_iff, decide_eq_true_iff] at this
  have hle : x.toModel.unpack.le (ofNat 1 : Float).toModel.unpack = true := by
    have : decide (decide (x.toModel ≤ (ofNat 1 : Float).toModel) = true) = true := hhigh
    rwa [decide_eq_true_iff, decide_eq_true_iff] at this
  have hfinite : x.isFinite = true := by
    show x.toModel.unpack.isFinite = true
    generalize x.toModel.unpack = f at hlt hle
    cases f with
    | finite => rfl
    | zero => rfl
    | notANumber => cases hle
    | infinity s =>
      cases s
      · cases hlt
      · cases hle
  rw [le_iff_value_le hfinite within_one.isFinite, value_one] at hhigh
  exact ⟨hfinite, hhigh⟩

theorem isFinite_of_near {x y : Float} (hnear : near x y = true) : x.isFinite = true := by
  have hfar (s : Sign) : le (magnitude (Float.ofModel (.pack (.infinity s)))) tolerance = false := by
    cases s <;> rfl
  have hnone : le (magnitude (Float.ofModel (.pack .notANumber))) tolerance = false := rfl
  have hsub : x - y = .ofModel (.pack (UnpackedFloat.sub Format.binary64 x.toModel.unpack y.toModel.unpack)) := rfl
  rw [near, hsub] at hnear
  show x.toModel.unpack.isFinite = true
  generalize x.toModel.unpack = f at hnear
  generalize y.toModel.unpack = g at hnear
  cases f with
  | finite => rfl
  | zero => rfl
  | notANumber => cases hnone.symm.trans hnear
  | infinity s =>
    have hcases : UnpackedFloat.sub Format.binary64 (.infinity s) g = .infinity s ∨
        UnpackedFloat.sub Format.binary64 (.infinity s) g = .notANumber := by
      cases g <;> simp only [UnpackedFloat.sub] <;> (try split_ifs) <;> simp
    rcases hcases with h | h <;> rw [h] at hnear
    · cases (hfar s).symm.trans hnear
    · cases hnone.symm.trans hnear

theorem reaches_of_near {x y bound : Float} {t : Int} (hx : Within t x) (hy : Within t y) (hlow : -82 ≤ t)
    (hhigh : t ≤ 917) (hone : value y = 1) (hnear : near x y = true) (hbound : bound.isFinite = true)
    (hle : value bound ≤ 1) : reaches x bound = true := by
  have hsum := rounds_add hx (within_tolerance.mono hlow) hhigh
  rw [reaches, le_iff_value_le hbound hsum.finite]
  refine hle.trans ?_
  rw [← value_one]
  refine hsum.ge within_one.isFinite ?_
  rw [value_one]
  exact one_le_of_near hx hy hhigh hone hnear

/-! ### From zero to one -/

theorem within_of_abs_value_le {x : Float} (hx : x.isFinite = true) (hle : |value x| ≤ 1) : Within (-52) x := by
  rcases unpack_cases hx with hzero | ⟨s, m, e, hm, hunpack, h⟩
  · exact .inl hzero
  have hdigits : m.log2 ≤ 52 := Nat.lt_succ_iff.mp ((Nat.log2_lt hm.ne').mpr h.lt)
  refine .inr ⟨s, m, e, hm, hunpack, hdigits, ?_⟩
  by_contra! hlarge
  have hm52 : (2 : Rat) ^ 52 ≤ m := by exact_mod_cast h.full.resolve_left (by omega)
  have habs : |value x| = m * 2 ^ e := by
    rw [value_of_unpack hunpack]
    cases s <;> simp [unpackedValue, Sign.apply, abs_mul]
  have htwo : (2 : Rat) ≤ |value x| := by
    calc (2 : Rat) = 2 ^ 52 * 2 ^ (-51 : Int) := by norm_num
      _ ≤ m * 2 ^ e := by
        gcongr
        · norm_num
        · omega
      _ = |value x| := habs.symm
  linarith

theorem value_ofNat_zero : value (ofNat 0) = 0 :=
  value_of_unpack (f := .zero .positive) rfl

theorem clamp_mem {x : Float} (hx : x.isFinite = true) :
    (clamp x).isFinite = true ∧ |value (clamp x)| ≤ 1 := by
  have hzero : (ofNat 0 : Float).isFinite = true := rfl
  have hone : (ofNat 1 : Float).isFinite = true := rfl
  unfold clamp
  split_ifs with hlow hhigh
  · refine ⟨hzero, ?_⟩
    rw [value_ofNat_zero, abs_zero]
    exact zero_le_one
  · refine ⟨hone, ?_⟩
    rw [value_one, abs_one]
  · rw [lt_iff_value_lt hx hzero, value_ofNat_zero, not_lt] at hlow
    rw [lt_iff_value_lt hone hx, value_one, not_lt] at hhigh
    exact ⟨hx, abs_le.mpr ⟨by linarith, hhigh⟩⟩

theorem value_greatest {x y : Float} (hx : x.isFinite = true) (hy : y.isFinite = true) :
    value (greatest x y) = max (value x) (value y) := by
  unfold greatest
  split_ifs with hlt
  · exact (max_eq_right ((lt_iff_value_lt hx hy).mp hlt).le).symm
  · rw [lt_iff_value_lt hx hy, not_lt] at hlt
    exact (max_eq_left hlt).symm

/-! ### Signs -/

/-- Not negative, as far as the sign says. -/
def HasNoMinus : UnpackedFloat → Prop
  | .infinity s | .zero s | .finite s _ _ _ => s = .positive
  | .notANumber => True

theorem unpackSign_pack {f : UnpackedFloat} (hf : HasNoMinus f) :
    unpackSign (UnpackedFloat.pack Format.binary64 f) = 0#1 := by
  unfold UnpackedFloat.pack
  split
  · exact unpackSign_packComponents
  · obtain rfl := hf
    exact unpackSign_packComponents
  · obtain rfl := hf
    exact unpackSign_packComponents
  · obtain rfl := hf
    simp only
    split_ifs <;> exact unpackSign_packComponents

theorem hasNoMinus_unpack {b : BitVec Format.binary64.numBits} (hb : unpackSign b = 0#1) :
    HasNoMinus (UnpackedFloat.unpack Format.binary64 b) := by
  have hsign : Sign.ofBitVec (unpackSign b) = .positive := by
    rw [hb]
    rfl
  simp only [UnpackedFloat.unpack, hsign]
  split_ifs <;> first | rfl | trivial

/-- A number that was stored without a minus. -/
def IsNonneg (x : Float) : Prop :=
  HasNoMinus x.toModel.unpack

theorem isNonneg_pack {f : UnpackedFloat} (hf : HasNoMinus f) : IsNonneg (.ofModel (.pack f)) :=
  hasNoMinus_unpack (unpackSign_pack hf)

theorem IsNonneg.value_nonneg {x : Float} (h : IsNonneg x) : 0 ≤ value x := by
  unfold IsNonneg at h
  unfold value
  generalize x.toModel.unpack = f at h
  cases f with
  | finite s m e hm =>
    obtain rfl : s = .positive := h
    simp only [unpackedValue, Sign.apply, Int.cast_natCast]
    positivity
  | infinity s => exact le_rfl
  | zero s => exact le_rfl
  | notANumber => exact le_rfl

theorem hasNoMinus_roundWithAccuracy (m : Nat) (e : Int) (accuracy : Accuracy) :
    HasNoMinus (roundWithAccuracy Format.binary64 .positive m e accuracy) := by
  obtain ⟨r, k, -, -, ⟨hround, -⟩ | ⟨hpos, hround⟩⟩ := roundWithAccuracy_cases .positive m e accuracy <;>
    rw [hround] <;> rfl

theorem IsNonneg.div {x y : Float} (hx : IsNonneg x) (hy : IsNonneg y) : IsNonneg (x / y) := by
  refine isNonneg_pack (f := UnpackedFloat.div Format.binary64 x.toModel.unpack y.toModel.unpack) ?_
  unfold IsNonneg at hx hy
  generalize x.toModel.unpack = f at hx
  generalize y.toModel.unpack = g at hy
  cases f <;> cases g <;> (first | obtain rfl := hx | skip) <;> (first | obtain rfl := hy | skip) <;>
    first | exact hasNoMinus_roundWithAccuracy _ _ _ | rfl | trivial

theorem IsNonneg.mul {x y : Float} (hx : IsNonneg x) (hy : IsNonneg y) : IsNonneg (x * y) := by
  refine isNonneg_pack (f := UnpackedFloat.mul Format.binary64 x.toModel.unpack y.toModel.unpack) ?_
  unfold IsNonneg at hx hy
  generalize x.toModel.unpack = f at hx
  generalize y.toModel.unpack = g at hy
  cases f <;> cases g <;> (first | obtain rfl := hx | skip) <;> (first | obtain rfl := hy | skip) <;>
    first | exact hasNoMinus_roundWithAccuracy _ _ _ | rfl | trivial

theorem isNonneg_ofNat (n : Nat) : IsNonneg (ofNat n) := by
  rcases Nat.lt_or_ge n (2 ^ 53) with hlt | hge
  · show IsNonneg (Float.ofNat n)
    rw [ofNat_of_lt hlt]
    refine IsNonneg.mul (isNonneg_pack (f := UnpackedFloat.ofUInt64 Format.binary64 n.toUInt64) ?_) rfl
    rw [UnpackedFloat.ofUInt64, UnpackedFloat.ofNat, UnpackedFloat.ofInt, UnpackedFloat.normalize]
    split
    · next hneg =>
      have := Int.compare_eq_lt.mp hneg
      omega
    · rfl
    · obtain ⟨k, -, hround⟩ := round_eq .positive (n.toUInt64.toNat : Int).toNat 0
      rw [hround]
      exact hasNoMinus_roundWithAccuracy _ _ _
  · show IsNonneg (Float.ofNat n)
    rw [ofNat_of_le hge]
    generalize n <<< 53 * 1 = m
    exact isNonneg_pack (hasNoMinus_roundWithAccuracy m (-53) .exact)

theorem one_sub_share {k n : Nat} (hk : k < 2 ^ 64) (hpos : 0 < n) (hn : n < 2 ^ 64) :
    Within 329 (ofNat 1 - ofNat k / ofNat n : Float) ∧ value (ofNat 1 - ofNat k / ofNat n : Float) ≤ 1 := by
  have hshare : Within 275 (ofNat k / ofNat n : Float) :=
    within_div (within_ofNat hk) (ofNat_bounds hpos hn).2 (by decide) (by decide)
  have hone : Within 275 (ofNat 1) := within_one.mono (by decide)
  refine ⟨within_sub hone hshare (by decide) (by decide), ?_⟩
  have hnonneg := ((isNonneg_ofNat k).div (isNonneg_ofNat n)).value_nonneg
  have hle := (rounds_sub hone hshare (by decide)).le within_one.isFinite (by rw [value_one]; linarith)
  rwa [value_one] at hle

theorem one_sub_zero {n : Nat} (hpos : 0 < n) (hn : n < 2 ^ 64) :
    (ofNat 1 - ofNat 0 / ofNat n : Float) = ofNat 1 := by
  obtain ⟨s, m, e, hm, hunpack, -⟩ := (ofNat_bounds hpos hn).2
  have hdiv : (ofNat 0 / ofNat n : Float) = .ofModel (.pack (.zero (.positive / s))) := by
    have hzero : (ofNat 0 : Float).toModel.unpack = .zero .positive := rfl
    have hdiv : (ofNat 0 / ofNat n : Float) = .ofModel (.pack (UnpackedFloat.div Format.binary64
        (ofNat 0 : Float).toModel.unpack (ofNat n : Float).toModel.unpack)) := rfl
    rw [hdiv, hzero]
    change (ofNat n : Float).toModel.unpack = _ at hunpack
    rw [hunpack]
    rfl
  rw [hdiv]
  cases s <;> rfl

end TextRepair.Score
