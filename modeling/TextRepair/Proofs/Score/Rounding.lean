import TextRepair.Proofs.Score.Values

/-!
# Rounding of binary scores

Sums and differences are rounded to a nearest number (`rounds_add`, `rounds_sub`). Rounding keeps the digits down
to a last place (`lastPlace`) and goes to a nearest multiple of it (`kept_near`). A number that is no
such multiple has fewer than 53 digits from that place on (`value_multiple`), so there is a multiple between it and
what is rounded. It follows that rounding goes past no number (`Rounds.le`, `Rounds.ge`) and that what is a number
already stays as it is (`value_sub_eq`).
-/

namespace TextRepair.Score

open Float.Model Float.Model.UnpackedFloat

/-! ### Rounding to a nearest number -/

/-- What is left of a whole number after some digits were dropped one by one: the first one dropped, and
whether one of the others was not zero. -/
theorem shiftRight_succ (m n : Nat) :
    ExtendedMantissa.ofMantissaAndAccuracy m .exact >>> (n + 1)
      = ⟨m / 2 ^ (n + 1), m / 2 ^ n % 2 != 0, m % 2 ^ n != 0⟩ := by
  induction n with
  | zero =>
    show ExtendedMantissa.shiftRightOne ⟨m, false, false⟩ = _
    simp [ExtendedMantissa.shiftRightOne, Nat.mod_one]
  | succ n ih =>
    show ExtendedMantissa.shiftRightOne (ExtendedMantissa.ofMantissaAndAccuracy m .exact >>> (n + 1)) = _
    rw [ih]
    have hdiv : m / 2 ^ (n + 1) / 2 = m / 2 ^ (n + 2) := by
      rw [Nat.div_div_eq_div_mul, ← Nat.pow_succ]
    have hmod : m % 2 ^ (n + 1) = m % 2 ^ n + 2 ^ n * (m / 2 ^ n % 2) := by
      rw [Nat.pow_succ, Nat.mod_mul]
    have hsticky : (m / 2 ^ n % 2 != 0 || m % 2 ^ n != 0) = (m % 2 ^ (n + 1) != 0) := by
      rw [hmod, Bool.eq_iff_iff]
      simp [or_comm]
      tauto
    simp only [ExtendedMantissa.shiftRightOne, hdiv, hsticky]

theorem kept_near (m n : Nat) :
    2 * m ≤ 2 * (kept m n .exact * 2 ^ n) + 2 ^ n ∧ 2 * (kept m n .exact * 2 ^ n) ≤ 2 * m + 2 ^ n := by
  generalize hr : kept m n .exact = r
  unfold kept at hr
  cases n with
  | zero =>
    obtain rfl : m = r := hr
    omega
  | succ n =>
    rw [shiftRight_succ] at hr
    have hlow : m % 2 ^ n < 2 ^ n := Nat.mod_lt _ (Nat.two_pow_pos n)
    have hsplit : m = 2 ^ n * (2 * (m / 2 ^ (n + 1)) + m / 2 ^ n % 2) + m % 2 ^ n := by
      rw [Nat.pow_succ, ← Nat.div_div_eq_div_mul, Nat.div_add_mod, Nat.div_add_mod]
    have hpow : 2 ^ (n + 1) = 2 * 2 ^ n := by rw [Nat.pow_succ, Nat.mul_comm]
    generalize m / 2 ^ (n + 1) = q at *
    generalize m % 2 ^ n = low at *
    generalize 2 ^ n = u at *
    rw [hpow, hsplit]
    rcases Nat.mod_two_eq_zero_or_one (m / u) with hhalf | hhalf <;> rw [hhalf] at hr ⊢
    · -- less than half of the last digit is dropped
      have hr : r = q := by
        rw [← hr]
        cases low <;> rfl
      subst hr
      constructor <;> linarith
    · rcases Nat.eq_zero_or_pos low with rfl | hpos
      · have hr : r = q + q % 2 := hr.symm
        have := Nat.mod_two_eq_zero_or_one q
        rcases this with hq | hq <;> rw [hq] at hr <;> subst hr <;> constructor <;> linarith
      · have hr : r = q + 1 := by
          rw [← hr, bne_iff_ne.mpr hpos.ne']
          rfl
        subst hr
        constructor <;> linarith

theorem abs_kept_sub_le (m n : Nat) (e : Int) :
    |(kept m n .exact : Rat) * 2 ^ (e + n) - m * 2 ^ e| ≤ 2 ^ (e + n) / 2 := by
  obtain ⟨hlow, hhigh⟩ := kept_near m n
  have hlow : 2 * (m : Rat) ≤ 2 * (kept m n .exact * 2 ^ n) + 2 ^ n := by exact_mod_cast hlow
  have hhigh : 2 * ((kept m n .exact : Rat) * 2 ^ n) ≤ 2 * m + 2 ^ n := by exact_mod_cast hhigh
  have hunit : (0 : Rat) < 2 ^ e := by positivity
  have hscale : (2 : Rat) ^ (e + n) = 2 ^ n * 2 ^ e := by
    rw [add_comm, zpow_add₀ two_ne_zero, zpow_natCast]
  rw [hscale, ← mul_assoc, ← sub_mul, mul_div_right_comm, abs_mul, abs_of_pos hunit]
  refine mul_le_mul_of_nonneg_right (abs_le.mpr ⟨?_, ?_⟩) hunit.le <;> linarith

theorem kept_le {m n : Nat} (hdigits : m.log2 ≤ 52 + n) (accuracy : Accuracy) : kept m n accuracy ≤ 2 ^ 53 := by
  refine (kept_bounds m n accuracy).2.trans (Nat.succ_le_of_lt ?_)
  rw [Nat.div_lt_iff_lt_mul (Nat.two_pow_pos n), ← Nat.pow_add]
  exact Nat.lt_log2_self.trans_le (Nat.pow_le_pow_right two_pos (by omega))

theorem le_kept {m n : Nat} (hm : m ≠ 0) (hdigits : m.log2 = 52 + n) (accuracy : Accuracy) :
    2 ^ 52 ≤ kept m n accuracy := by
  refine le_trans ?_ (kept_bounds m n accuracy).1
  rw [Nat.le_div_iff_mul_le (Nat.two_pow_pos n), ← Nat.pow_add, ← hdigits]
  exact Nat.log2_self_le hm

theorem dropped_of_le {r : Nat} {t : Int} (hr : r ≤ 2 ^ 53) (hleast : -1074 ≤ t) :
    dropped r t = 0 ∧ r < 2 ^ 53 ∨ dropped r t = 1 ∧ r = 2 ^ 53 := by
  rcases hr.lt_or_eq with hlt | rfl
  · have hlog : r.log2 ≤ 52 := by
      rcases eq_or_ne r 0 with rfl | hne
      · simp
      · exact Nat.lt_succ_iff.mp ((Nat.log2_lt hne).mpr hlt)
    refine .inl ⟨?_, hlt⟩
    unfold dropped
    omega
  · refine .inr ⟨?_, rfl⟩
    rw [dropped, Nat.log2_two_pow]
    omega

theorem eq_zero_of_dropped {r : Nat} {t : Int} (hr : r ≤ 2 ^ 53) (hleast : -1074 ≤ t)
    (hzero : r / 2 ^ dropped r t = 0) : r = 0 := by
  rcases dropped_of_le hr hleast with ⟨hdropped, -⟩ | ⟨hdropped, rfl⟩ <;> rw [hdropped] at hzero
  · simpa using hzero
  · simp at hzero

theorem isCanonical_dropped {r : Nat} {t : Int} (hr : r ≤ 2 ^ 53) (hleast : -1074 ≤ t) (hmost : t ≤ 970)
    (hfull : t = -1074 ∨ 2 ^ 52 ≤ r) :
    IsCanonical (r / 2 ^ dropped r t) (t + dropped r t) ∧
      ((r / 2 ^ dropped r t : Nat) : Rat) * 2 ^ (t + dropped r t) = r * 2 ^ t := by
  rcases dropped_of_le hr hleast with ⟨hdropped, hlt⟩ | ⟨hdropped, rfl⟩ <;> rw [hdropped]
  · rw [pow_zero, Nat.div_one, Nat.cast_zero, add_zero]
    exact ⟨⟨hlt, hleast, by omega, hfull⟩, rfl⟩
  · refine ⟨⟨by decide, by omega, by omega, .inr (by decide)⟩, ?_⟩
    rw [Nat.cast_one, zpow_add_one₀ two_ne_zero, pow_one]
    norm_num
    ring

/-- The place of the last digit that is kept of the number `m * 2 ^ e`. -/
def lastPlace (m : Nat) (e : Int) : Int :=
  max ((m.log2 : Int) + e - 52) (-1074)

theorem least_lastPlace (m : Nat) (e : Int) : -1074 ≤ lastPlace m e :=
  le_max_right _ _

/-- A number is rounded to a nearest multiple of the place of its last digit. -/
theorem round_cases (s : Sign) {m : Nat} {e : Int} (hm : m ≠ 0) (hsmall : m.log2 + e ≤ 1022) :
    ∃ r : Nat, |(r : Rat) * 2 ^ lastPlace m e - m * 2 ^ e| ≤ 2 ^ lastPlace m e / 2 ∧
      (round Format.binary64 s m e = .zero s ∧ r = 0 ∨
        ∃ m' e' hm', round Format.binary64 s m e = .finite s m' e' hm' ∧ IsCanonical m' e' ∧
          (m' : Rat) * 2 ^ e' = r * 2 ^ lastPlace m e) := by
  obtain ⟨k, hk, hround⟩ := round_eq s m e
  have hlog := log2_shiftLeft hm k
  have hplace : e - k + dropped (m <<< k) (e - k) = lastPlace m e := by
    rw [add_dropped, hlog, lastPlace]
    omega
  have hdigits : (m <<< k).log2 ≤ 52 + dropped (m <<< k) (e - k) := by
    rw [dropped, hlog]
    omega
  have hfull : lastPlace m e = -1074 ∨ (m <<< k).log2 = 52 + dropped (m <<< k) (e - k) := by
    rw [dropped, hlog, lastPlace]
    omega
  have hmost : lastPlace m e ≤ 970 := by
    rw [lastPlace]
    omega
  obtain ⟨r, d, hr, rfl, hcases⟩ := roundWithAccuracy_cases s (m <<< k) (e - k) .exact
  have hr53 : r ≤ 2 ^ 53 := hr ▸ kept_le hdigits .exact
  have hne : m <<< k ≠ 0 := by simpa [Nat.shiftLeft_eq] using hm
  have hr52 : lastPlace m e = -1074 ∨ 2 ^ 52 ≤ r := hfull.imp_right fun h => hr ▸ le_kept hne h .exact
  have hnear := abs_kept_sub_le (m <<< k) (dropped (m <<< k) (e - k)) (e - k)
  have hexact : ((m <<< k : Nat) : Rat) * 2 ^ (e - k) = m * 2 ^ e := by
    rw [Nat.shiftLeft_eq, Nat.cast_mul, Nat.cast_pow, Nat.cast_ofNat, mul_assoc, ← zpow_natCast,
      ← zpow_add₀ two_ne_zero, add_sub_cancel]
  rw [hplace, ← hr, hexact] at hnear
  rw [hplace, ← hround] at hcases
  refine ⟨r, hnear, ?_⟩
  rcases hcases with ⟨hround, hzero⟩ | ⟨hpos, hround⟩
  · exact .inl ⟨hround, eq_zero_of_dropped hr53 (least_lastPlace m e) hzero⟩
  · obtain ⟨hcanonical, hvalue⟩ := isCanonical_dropped hr53 (least_lastPlace m e) hmost hr52
    exact .inr ⟨_, _, hpos, hround, hcanonical, hvalue⟩

/-- A finite number than which no other one is nearer to `v`. -/
structure Rounds (v : Rat) (x : Float) : Prop where
  finite : x.isFinite = true
  nearest : ∀ y : Float, y.isFinite = true → |value x - v| ≤ |value y - v|

theorem Rounds.le {v : Rat} {x y : Float} (h : Rounds v x) (hy : y.isFinite = true) (hle : v ≤ value y) :
    value x ≤ value y := by
  by_contra! hlt
  have hnear := h.nearest y hy
  rw [abs_of_nonneg (by linarith), abs_of_nonneg (by linarith)] at hnear
  linarith

theorem Rounds.ge {v : Rat} {x y : Float} (h : Rounds v x) (hy : y.isFinite = true) (hle : value y ≤ v) :
    value y ≤ value x := by
  by_contra! hlt
  have hnear := h.nearest y hy
  rw [abs_of_nonpos (by linarith), abs_of_nonpos (by linarith)] at hnear
  linarith

theorem abs_sub_le_of_multiples {u v : Rat} (hu : 0 < u) {k : Int} (hnear : |k * u - v| ≤ u / 2) (l : Int) :
    |k * u - v| ≤ |l * u - v| := by
  rcases eq_or_ne k l with rfl | hne
  · exact le_rfl
  · have hapart : (1 : Rat) ≤ |(k : Rat) - l| := by exact_mod_cast Int.one_le_abs (sub_ne_zero.mpr hne)
    have hgap : u ≤ |k * u - l * u| := by
      rw [← sub_mul, abs_mul, abs_of_pos hu]
      exact le_mul_of_one_le_left hu.le hapart
    have htriangle : |k * u - l * u| ≤ |k * u - v| + |l * u - v| := by
      rw [abs_sub_comm (l * u : Rat) v]
      exact abs_sub_le _ _ _
    linarith

theorem exists_value_round (s : Sign) {m : Nat} {e : Int} (hm : m ≠ 0) (hsmall : m.log2 + e ≤ 1022) :
    ∃ r : Nat, |(r : Rat) * 2 ^ lastPlace m e - m * 2 ^ e| ≤ 2 ^ lastPlace m e / 2 ∧
      (Float.ofModel (.pack (round Format.binary64 s m e))).isFinite = true ∧
      value (.ofModel (.pack (round Format.binary64 s m e))) = (s.apply r : Int) * 2 ^ lastPlace m e := by
  obtain ⟨r, hnear, ⟨hround, rfl⟩ | ⟨m', e', hm', hround, hcanonical, hvalue⟩⟩ := round_cases s hm hsmall
  · refine ⟨0, hnear, ?_⟩
    rw [hround]
    cases s <;> exact ⟨rfl, (value_of_unpack (f := .zero _) rfl).trans (by simp [unpackedValue, Sign.apply])⟩
  · have hunpack := unpack_pack (s := s) hm' hcanonical
    refine ⟨r, hnear, ?_⟩
    rw [hround, value_of_unpack hunpack]
    constructor
    · show UnpackedFloat.isFinite _ = true
      rw [hunpack]
      rfl
    · cases s <;> simp [unpackedValue, Sign.apply, hvalue]

theorem value_multiple {y : Float} (hy : y.isFinite = true) {t : Int} (ht : -1074 ≤ t) :
    (∃ l : Int, value y = l * 2 ^ t) ∨ -1074 < t ∧ |value y| ≤ 2 ^ 52 * 2 ^ t := by
  rcases unpack_cases hy with ⟨s, hunpack⟩ | ⟨s, m, e, hm, hunpack, h⟩
  · exact .inl ⟨0, by rw [value_of_unpack hunpack]; simp [unpackedValue]⟩
  · rw [value_of_unpack hunpack]
    rcases le_or_gt t e with hle | hlt
    · refine .inl ⟨s.apply m * 2 ^ (e - t).toNat, ?_⟩
      have hpow : (2 : Rat) ^ e = 2 ^ (e - t).toNat * 2 ^ t := by
        rw [← zpow_natCast, ← zpow_add₀ two_ne_zero]
        congr 1
        omega
      simp [unpackedValue, hpow, mul_assoc]
    · refine .inr ⟨by have := h.least; omega, ?_⟩
      have hm53 : (m : Rat) ≤ 2 ^ 53 := by exact_mod_cast h.lt.le
      have habs : |unpackedValue (.finite s m e hm)| = m * 2 ^ e := by
        cases s <;> simp [unpackedValue, Sign.apply, abs_mul]
      calc |unpackedValue (.finite s m e hm)| = m * 2 ^ e := habs
        _ ≤ 2 ^ 53 * 2 ^ e := by gcongr
        _ = 2 ^ 52 * 2 ^ (e + 1) := by rw [zpow_add_one₀ two_ne_zero]; ring
        _ ≤ 2 ^ 52 * 2 ^ t := by
          gcongr
          · norm_num
          · omega

/-- The number stored for `m * 2 ^ e` is a nearest one. -/
theorem rounds_round (s : Sign) {m : Nat} {e : Int} (hm : m ≠ 0) (hsmall : m.log2 + e ≤ 1022) :
    Rounds ((s.apply m : Int) * 2 ^ e) (.ofModel (.pack (round Format.binary64 s m e))) := by
  obtain ⟨r, hnear, hfinite, hvalue⟩ := exists_value_round s hm hsmall
  refine ⟨hfinite, fun y hy => ?_⟩
  rw [hvalue]
  have hunit : (0 : Rat) < 2 ^ lastPlace m e := by positivity
  have hsign : |((s.apply r : Int) : Rat) * 2 ^ lastPlace m e - (s.apply m : Int) * 2 ^ e|
      ≤ 2 ^ lastPlace m e / 2 := by
    cases s
    · rw [← abs_neg]
      convert hnear using 2
      simp [Sign.apply]
      ring
    · simpa [Sign.apply] using hnear
  rcases value_multiple hy (least_lastPlace m e) with ⟨l, hl⟩ | ⟨hleast, hbelow⟩
  · rw [hl]
    exact abs_sub_le_of_multiples hunit hsign l
  · -- the power of two below `m * 2 ^ e` is a multiple between the two
    have hpower : (2 : Rat) ^ 52 * 2 ^ lastPlace m e ≤ m * 2 ^ e := by
      have hlog : (2 : Rat) ^ m.log2 ≤ m := by exact_mod_cast Nat.log2_self_le hm
      have hplace : (2 : Rat) ^ 52 * 2 ^ lastPlace m e = 2 ^ m.log2 * 2 ^ e := by
        rw [← zpow_natCast, ← zpow_natCast, ← zpow_add₀ two_ne_zero, ← zpow_add₀ two_ne_zero]
        congr 1
        unfold lastPlace at hleast ⊢
        push_cast
        omega
      rw [hplace]
      gcongr
    have hbetween := abs_sub_le_of_multiples hunit hsign (s.apply (2 ^ 52))
    refine hbetween.trans ?_
    have := abs_le.mp hbelow
    cases s
    · simp only [Sign.apply]
      push_cast
      rw [abs_of_nonneg (by linarith), abs_of_nonneg (by linarith)]
      linarith
    · simp only [Sign.apply]
      push_cast
      rw [abs_of_nonpos (by linarith), abs_of_nonpos (by linarith)]
      linarith

/-! ### Sums and differences -/

theorem value_zero (s : Sign) : value (.ofModel (.pack (.zero s))) = 0 := by
  cases s <;> exact value_of_unpack (f := .zero _) rfl

theorem rounds_zero (s : Sign) : Rounds 0 (.ofModel (.pack (.zero s))) := by
  refine ⟨by cases s <;> rfl, fun y _ => ?_⟩
  rw [value_zero, sub_zero, abs_zero]
  exact abs_nonneg _

theorem rounds_normalize {n : Int} {e : Int} (hsmall : n.natAbs.log2 + e ≤ 1022) (s : Sign) :
    Rounds (n * 2 ^ e) (.ofModel (.pack (UnpackedFloat.normalize Format.binary64 n e s))) := by
  unfold UnpackedFloat.normalize
  split
  · next hlt =>
    have hneg := Int.compare_eq_lt.mp hlt
    have habs : n.natAbs = (-n).toNat := by omega
    have hn : n = Sign.apply .negative ((-n).toNat : Int) := by simp only [Sign.apply]; omega
    have h := rounds_round .negative (m := (-n).toNat) (by omega) (habs ▸ hsmall)
    rwa [← hn] at h
  · next heq =>
    obtain rfl := Int.compare_eq_eq.mp heq
    simpa using rounds_zero s
  · next hgt =>
    have hpos := Int.compare_eq_gt.mp hgt
    have habs : n.natAbs = n.toNat := by omega
    have hn : n = Sign.apply .positive (n.toNat : Int) := by simp only [Sign.apply]; omega
    have h := rounds_round .positive (m := n.toNat) (by omega) (habs ▸ hsmall)
    rwa [← hn] at h

theorem rounds_difference (s₁ s₂ : Sign) {m₁ m₂ : Nat} {e₁ e₂ t : Int} (hm₁ : 0 < m₁) (hm₂ : 0 < m₂)
    (hdigits₁ : m₁.log2 ≤ 52) (hdigits₂ : m₂.log2 ≤ 52) (he₁ : e₁ ≤ t) (he₂ : e₂ ≤ t) (ht : t ≤ 917) {n : Int}
    (hn : n = s₁.apply ((m₁ <<< (e₁ - min e₁ e₂).toNat : Nat) : Int)
      - s₂.apply ((m₂ <<< (e₂ - min e₁ e₂).toNat : Nat) : Int)) :
    Rounds ((s₁.apply m₁ : Int) * 2 ^ e₁ - (s₂.apply m₂ : Int) * 2 ^ e₂)
      (.ofModel (.pack (UnpackedFloat.normalize Format.binary64 n (min e₁ e₂) .positive))) := by
  have hleft := log2_shiftLeft hm₁.ne' (e₁ - min e₁ e₂).toNat
  have hright := log2_shiftLeft hm₂.ne' (e₂ - min e₁ e₂).toNat
  have hlog := log2_natAbs_sub_le (n := (t + 52 - min e₁ e₂).toNat) (by rw [hleft]; omega)
    (by rw [hright]; omega) s₁ s₂
  rw [← hn] at hlog
  have hshift (m : Nat) (s : Sign) {e : Int} (he : min e₁ e₂ ≤ e) :
      ((s.apply ((m <<< (e - min e₁ e₂).toNat : Nat) : Int) : Int) : Rat) * 2 ^ min e₁ e₂
        = (s.apply m : Int) * 2 ^ e := by
    have hpow : (2 : Rat) ^ e = 2 ^ (e - min e₁ e₂).toNat * 2 ^ min e₁ e₂ := by
      rw [← zpow_natCast, ← zpow_add₀ two_ne_zero]
      congr 1
      omega
    rw [Nat.shiftLeft_eq, hpow]
    cases s <;> simp [Sign.apply, mul_assoc]
  have hvalue : (s₁.apply m₁ : Int) * 2 ^ e₁ - (s₂.apply m₂ : Int) * 2 ^ e₂ = (n : Rat) * 2 ^ min e₁ e₂ := by
    rw [hn, Int.cast_sub, sub_mul, hshift m₁ s₁ (min_le_left _ _), hshift m₂ s₂ (min_le_right _ _)]
  rw [hvalue]
  exact rounds_normalize (by omega) .positive

theorem rounds_finite (s : Sign) {m : Nat} {e : Int} (hm : 0 < m) (h : IsCanonical m e) :
    Rounds ((s.apply m : Int) * 2 ^ e) (.ofModel (.pack (.finite s m e hm))) := by
  have hunpack := unpack_pack (s := s) hm h
  refine ⟨?_, fun y _ => ?_⟩
  · show UnpackedFloat.isFinite _ = true
    rw [hunpack]
    rfl
  · rw [value_of_unpack hunpack, unpackedValue, sub_self, abs_zero]
    exact abs_nonneg _

theorem Within.mono {t u : Int} {x : Float} (h : Within t x) (hle : t ≤ u) : Within u x := by
  rcases h with hzero | ⟨s, m, e, hm, hunpack, hdigits, he⟩
  · exact .inl hzero
  · exact .inr ⟨s, m, e, hm, hunpack, hdigits, he.trans hle⟩

theorem Within.cases {t : Int} {x : Float} (h : Within t x) :
    (∃ s, x.toModel.unpack = .zero s) ∨
      ∃ s m e hm, x.toModel.unpack = .finite s m e hm ∧ IsCanonical m e ∧ m.log2 ≤ 52 ∧ e ≤ t := by
  rcases h with hzero | ⟨s, m, e, hm, hunpack, hdigits, he⟩
  · exact .inl hzero
  · exact .inr ⟨s, m, e, hm, hunpack, isCanonical_unpack hunpack, hdigits, he⟩

theorem apply_neg (s : Sign) (n : Int) : (-s).apply n = -s.apply n := by
  cases s
  · exact (neg_neg n).symm
  · rfl

theorem rounds_sub {x y : Float} {t : Int} (hx : Within t x) (hy : Within t y) (ht : t ≤ 917) :
    Rounds (value x - value y) (x - y) := by
  show Rounds _ (.ofModel (.pack (UnpackedFloat.sub Format.binary64 x.toModel.unpack y.toModel.unpack)))
  rcases hx.cases with ⟨s₁, hx⟩ | ⟨s₁, m₁, e₁, hm₁, hx, h₁, hdigits₁, he₁⟩ <;>
    rcases hy.cases with ⟨s₂, hy⟩ | ⟨s₂, m₂, e₂, hm₂, hy, h₂, hdigits₂, he₂⟩ <;>
    rw [value_of_unpack hx, value_of_unpack hy, hx, hy] <;>
    simp only [unpackedValue, UnpackedFloat.sub, sub_zero, zero_sub]
  · split_ifs <;> exact rounds_zero _
  · have h := rounds_finite (-s₂) hm₂ h₂
    rwa [apply_neg, Int.cast_neg, neg_mul] at h
  · exact rounds_finite s₁ hm₁ h₁
  · exact rounds_difference s₁ s₂ hm₁ hm₂ hdigits₁ hdigits₂ he₁ he₂ ht rfl

theorem rounds_add {x y : Float} {t : Int} (hx : Within t x) (hy : Within t y) (ht : t ≤ 917) :
    Rounds (value x + value y) (x + y) := by
  show Rounds _ (.ofModel (.pack (UnpackedFloat.add Format.binary64 x.toModel.unpack y.toModel.unpack)))
  rcases hx.cases with ⟨s₁, hx⟩ | ⟨s₁, m₁, e₁, hm₁, hx, h₁, hdigits₁, he₁⟩ <;>
    rcases hy.cases with ⟨s₂, hy⟩ | ⟨s₂, m₂, e₂, hm₂, hy, h₂, hdigits₂, he₂⟩ <;>
    rw [value_of_unpack hx, value_of_unpack hy, hx, hy] <;>
    simp only [unpackedValue, UnpackedFloat.add, add_zero, zero_add]
  · split_ifs <;> exact rounds_zero _
  · exact rounds_finite s₂ hm₂ h₂
  · exact rounds_finite s₁ hm₁ h₁
  · -- the second number is taken away with the other sign
    have h := rounds_difference s₁ (-s₂) hm₁ hm₂ hdigits₁ hdigits₂ he₁ he₂ ht rfl
    rw [apply_neg, apply_neg, Int.cast_neg, neg_mul, sub_neg_eq_add, sub_neg_eq_add] at h
    exact h

theorem value_sub_eq {x y : Float} {t : Int} (hx : Within t x) (hy : Within t y) (ht : t ≤ 917) {z : Float}
    (hz : z.isFinite = true) (heq : value z = value x - value y) : value (x - y) = value x - value y := by
  have h := rounds_sub hx hy ht
  exact le_antisymm (heq ▸ h.le hz heq.ge) (heq ▸ h.ge hz heq.le)

theorem exists_value_eq (s : Sign) {m : Nat} {e : Int} (hm : m < 2 ^ 53) (hleast : -1074 ≤ e) (hmost : e ≤ 970) :
    ∃ z : Float, z.isFinite = true ∧ value z = (s.apply m : Int) * 2 ^ e := by
  rcases Nat.eq_zero_or_pos m with rfl | hpos
  · refine ⟨.ofModel (.pack (.zero s)), (rounds_zero s).finite, ?_⟩
    rw [value_zero]
    cases s <;> simp [Sign.apply]
  · have hlog : m.log2 < 53 := (Nat.log2_lt hpos.ne').mpr hm
    obtain ⟨r, hnear, hfinite, hvalue⟩ := exists_value_round s hpos.ne' (e := e) (by omega)
    refine ⟨_, hfinite, ?_⟩
    have hplace : lastPlace m e ≤ e := by
      unfold lastPlace
      omega
    have hunit : (0 : Rat) < 2 ^ lastPlace m e := by positivity
    have hpow : (2 : Rat) ^ e = 2 ^ (e - lastPlace m e).toNat * 2 ^ lastPlace m e := by
      rw [← zpow_natCast, ← zpow_add₀ two_ne_zero]
      congr 1
      omega
    -- two multiples of one place that are less than it apart are one
    have hsame : (r : Rat) = m * 2 ^ (e - lastPlace m e).toNat := by
      rw [hpow, ← mul_assoc, ← sub_mul, abs_mul, abs_of_pos hunit, div_eq_inv_mul,
        mul_le_mul_iff_of_pos_right hunit] at hnear
      have hclose : |(r : Int) - (m * 2 ^ (e - lastPlace m e).toNat : Nat)| < 1 := by
        have : |((r : Int) - (m * 2 ^ (e - lastPlace m e).toNat : Nat) : Rat)| < 1 :=
          lt_of_le_of_lt (by push_cast; exact hnear) (by norm_num)
        exact_mod_cast this
      have := Int.abs_lt_one_iff.mp hclose
      exact_mod_cast sub_eq_zero.mp this
    rw [hvalue, hpow, ← mul_assoc]
    congr 1
    cases s <;> simp [Sign.apply, hsame]

end TextRepair.Score
