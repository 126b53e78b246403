import TextRepair.Proofs.Score.Finite

/-!
# Values of binary scores

A finite binary number stands for a rational number (`value`), and comparisons of finite numbers are comparisons
of their values (`le_iff_value_le`, `lt_iff_value_lt`). A number other than zero is stored with 53 digits or with
the least exponent there is (`IsCanonical`). So of two numbers the one with the larger exponent is larger
(`lt_of_exponent_lt`), and a number in that form comes back from its bits (`unpack_pack`).
-/

namespace TextRepair.Score

open Float.Model Float.Model.UnpackedFloat

/-! ### Values -/

/-- The mantissa and the exponent of a finite number other than zero as it is stored. -/
structure IsCanonical (m : Nat) (e : Int) : Prop where
  lt : m < 2 ^ 53
  least : -1074 ≤ e
  most : e ≤ 971
  full : e = -1074 ∨ 2 ^ 52 ≤ m

theorem isCanonical_unpack {b : BitVec Format.binary64.numBits} {s : Sign} {m : Nat} {e : Int} {hm : 0 < m}
    (h : UnpackedFloat.unpack Format.binary64 b = .finite s m e hm) : IsCanonical m e := by
  have hbias : ((Format.binary64.exponentBias : Int) + (Format.binary64.mantissaBitsWithoutImplicit : Nat))
      = 1075 := rfl
  have hexponent := (unpackExponent b).isLt
  simp only [UnpackedFloat.unpack, hbias] at h
  split_ifs at h with hones hempty hzero hempty
  · obtain ⟨-, rfl, rfl⟩ := UnpackedFloat.finite.inj h
    have hfield : (unpackExponent b).toNat = 0 := by rw [hzero]; rfl
    have hlt := (unpackMantissa b).isLt
    exact ⟨hlt.trans (by decide), by omega, by omega, .inl (by omega)⟩
  · obtain ⟨-, rfl, rfl⟩ := UnpackedFloat.finite.inj h
    have hlow : (unpackExponent b).toNat ≠ 0 := fun h => hzero (BitVec.eq_of_toNat_eq h)
    have hhigh : (unpackExponent b).toNat ≠ 2047 := fun h => hones (BitVec.eq_of_toNat_eq h)
    have hlt : (unpackExponent b).toNat < 2048 := hexponent
    refine ⟨(1#1 ++ unpackMantissa b).isLt, by omega, by omega, .inr ?_⟩
    rw [BitVec.toNat_append]
    exact Nat.left_le_or

theorem unpackSign_packComponents {spec : Format} {s : Sign} {exponent mantissa} :
    unpackSign (packComponents spec s exponent mantissa) = s.toBitVec := by
  ext i hi
  obtain rfl : i = 0 := by omega
  simp [unpackSign, packComponents, BitVec.getLsbD_append, BitVec.getElem_append]

theorem ofBitVec_toBitVec (s : Sign) : Sign.ofBitVec s.toBitVec = s := by
  cases s <;> rfl

theorem unpack_packComponents_full (s : Sign) {exponent : BitVec 11} (mantissa : BitVec 52)
    (hzero : exponent.toNat ≠ 0) (hones : exponent.toNat ≠ 2047) :
    UnpackedFloat.unpack Format.binary64 (packComponents Format.binary64 s exponent mantissa)
      = .finite s (1#1 ++ mantissa).toNat (exponent.toNat - 1075) (toNat_append_pos mantissa) := by
  have hnotZero : ¬exponent = 0#11 := fun h => hzero (congrArg BitVec.toNat h)
  have hnotOnes : ¬exponent = -1#11 := fun h => hones (congrArg BitVec.toNat h)
  have hbias : ((Format.binary64.exponentBias : Int) + (Format.binary64.mantissaBitsWithoutImplicit : Nat))
      = 1075 := rfl
  simp only [UnpackedFloat.unpack, unpackExponent_packComponents, unpackMantissa_packComponents,
    unpackSign_packComponents, ofBitVec_toBitVec, hbias]
  rw [if_neg hnotOnes, if_neg hnotZero]

theorem unpack_packComponents_least (s : Sign) {mantissa : BitVec 52} (hpos : 0 < mantissa.toNat) :
    UnpackedFloat.unpack Format.binary64 (packComponents Format.binary64 s 0#11 mantissa)
      = .finite s mantissa.toNat (-1074) hpos := by
  have hnotEmpty : ¬mantissa = 0#52 := fun h => hpos.ne' (congrArg BitVec.toNat h)
  simp only [UnpackedFloat.unpack, unpackExponent_packComponents, unpackMantissa_packComponents,
    unpackSign_packComponents, ofBitVec_toBitVec]
  rw [if_neg (by decide), if_pos trivial, dif_neg hnotEmpty]
  rfl

theorem toNat_one_append {m : Nat} (hlow : 2 ^ 52 ≤ m) (hhigh : m < 2 ^ 53) :
    (1#1 ++ BitVec.ofNat 52 m).toNat = m := by
  have hrest : (BitVec.ofNat 52 m).toNat = m % 2 ^ 52 := BitVec.toNat_ofNat _ _
  rw [BitVec.toNat_append, hrest, ← Nat.shiftLeft_add_eq_or_of_lt (Nat.mod_lt _ (by decide))]
  change 2 ^ 52 + m % 2 ^ 52 = m
  omega

theorem unpack_pack {s : Sign} {m : Nat} {e : Int} (hm : 0 < m) (h : IsCanonical m e) :
    (Float.ofModel (.pack (.finite s m e hm))).toModel.unpack = .finite s m e hm := by
  show UnpackedFloat.unpack Format.binary64 (UnpackedFloat.pack Format.binary64 (.finite s m e hm)) = _
  have hleast := h.least
  have hmost := h.most
  have hfull : m.log2 = 52 ↔ 2 ^ 52 ≤ m := by
    have hlog : m.log2 < 53 := (Nat.log2_lt hm.ne').mpr h.lt
    rw [← Nat.le_log2 hm.ne']
    omega
  rw [pack_eq hm h.most]
  by_cases hdigits : m.log2 = 52
  · rw [if_pos hdigits]
    have hfield : (BitVec.ofNat 11 (e + 1075).toNat).toNat = (e + 1075).toNat := by
      rw [BitVec.toNat_ofNat]
      omega
    rw [unpack_packComponents_full s _ (by omega) (by omega)]
    congr 1
    · exact toNat_one_append (hfull.mp hdigits) h.lt
    · omega
  · obtain rfl : e = -1074 := h.full.resolve_right (mt hfull.mpr hdigits)
    have hmantissa : (BitVec.ofNat 52 m).toNat = m := by
      rw [BitVec.toNat_ofNat]
      exact Nat.mod_eq_of_lt (by omega)
    rw [if_neg hdigits, unpack_packComponents_least s (hmantissa.symm ▸ hm)]
    congr 1

/-- The number that a finite one stands for. -/
def unpackedValue : UnpackedFloat → Rat
  | .finite s m e _ => s.apply m * 2 ^ e
  | .zero _ | .infinity _ | .notANumber => 0

/-- The number that a finite binary number stands for; 0 for the others. -/
def value (x : Float) : Rat :=
  unpackedValue x.toModel.unpack

theorem value_of_unpack {x : Float} {f : UnpackedFloat} (h : x.toModel.unpack = f) : value x = unpackedValue f := by
  rw [value, h]

theorem lt_of_exponent_lt {m₁ m₂ : Nat} {e₁ e₂ : Int} (h₁ : IsCanonical m₁ e₁) (h₂ : IsCanonical m₂ e₂)
    (he : e₁ < e₂) : (m₁ : Rat) * 2 ^ e₁ < m₂ * 2 ^ e₂ := by
  have hfull : 2 ^ 52 ≤ m₂ := h₂.full.resolve_left (by have := h₁.least; omega)
  have hm₁ : (m₁ : Rat) < 2 ^ 53 := by exact_mod_cast h₁.lt
  have hm₂ : (2 : Rat) ^ 52 ≤ m₂ := by exact_mod_cast hfull
  calc (m₁ : Rat) * 2 ^ e₁ < 2 ^ 53 * 2 ^ e₁ := by gcongr
    _ = 2 ^ 52 * 2 ^ (e₁ + 1) := by rw [zpow_add₀ two_ne_zero, zpow_one]; ring
    _ ≤ m₂ * 2 ^ e₂ := by
      gcongr
      · norm_num
      · omega

theorem compare_canonical {m₁ m₂ : Nat} {e₁ e₂ : Int} (h₁ : IsCanonical m₁ e₁) (h₂ : IsCanonical m₂ e₂) :
    (compare e₁ e₂).then (compare m₁ m₂) = compare ((m₁ : Rat) * 2 ^ e₁) (m₂ * 2 ^ e₂) := by
  rcases lt_trichotomy e₁ e₂ with hlt | rfl | hgt
  · rw [compare_lt_iff_lt.mpr hlt, compare_lt_iff_lt.mpr (lt_of_exponent_lt h₁ h₂ hlt)]
    rfl
  · have hpos : (0 : Rat) < 2 ^ e₁ := by positivity
    rw [compare_eq_iff_eq.mpr rfl]
    change compare m₁ m₂ = _
    rcases lt_trichotomy m₁ m₂ with hlt | rfl | hgt
    · rw [compare_lt_iff_lt.mpr hlt, compare_lt_iff_lt.mpr]
      exact mul_lt_mul_of_pos_right (by exact_mod_cast hlt) hpos
    · rw [compare_eq_iff_eq.mpr rfl, compare_eq_iff_eq.mpr rfl]
    · rw [compare_gt_iff_gt.mpr hgt, compare_gt_iff_gt.mpr]
      exact mul_lt_mul_of_pos_right (by exact_mod_cast hgt) hpos
  · rw [compare_gt_iff_gt.mpr hgt, compare_gt_iff_gt.mpr (lt_of_exponent_lt h₂ h₁ hgt)]
    rfl

theorem unpack_cases {x : Float} (hx : x.isFinite = true) :
    (∃ s, x.toModel.unpack = .zero s) ∨
      ∃ s m e hm, x.toModel.unpack = .finite s m e hm ∧ IsCanonical m e := by
  change x.toModel.unpack.isFinite = true at hx
  cases hunpack : x.toModel.unpack with
  | zero s => exact .inl ⟨s, rfl⟩
  | finite s m e hm => exact .inr ⟨s, m, e, hm, rfl, isCanonical_unpack hunpack⟩
  | infinity s =>
    rw [hunpack] at hx
    cases hx
  | notANumber =>
    rw [hunpack] at hx
    cases hx

theorem compare_unpack {x y : Float} (hx : x.isFinite = true) (hy : y.isFinite = true) :
    x.toModel.unpack.compare y.toModel.unpack = some (compare (value x) (value y)) := by
  unfold value
  have hpos {m : Nat} (hm : 0 < m) (e : Int) : (0 : Rat) < m * 2 ^ e := by positivity
  rcases unpack_cases hx with ⟨s₁, hx⟩ | ⟨s₁, m₁, e₁, hm₁, hx, h₁⟩ <;>
    rcases unpack_cases hy with ⟨s₂, hy⟩ | ⟨s₂, m₂, e₂, hm₂, hy, h₂⟩ <;> rw [hx, hy]
  · rfl
  · have := hpos hm₂ e₂
    cases s₂
    · exact congrArg some (compare_gt_iff_gt.mpr (by simpa [unpackedValue, Sign.apply] using this)).symm
    · exact congrArg some (compare_lt_iff_lt.mpr (by simpa [unpackedValue, Sign.apply] using this)).symm
  · have := hpos hm₁ e₁
    cases s₁
    · exact congrArg some (compare_lt_iff_lt.mpr (by simpa [unpackedValue, Sign.apply] using this)).symm
    · exact congrArg some (compare_gt_iff_gt.mpr (by simpa [unpackedValue, Sign.apply] using this)).symm
  · have h₁' := hpos hm₁ e₁
    have h₂' := hpos hm₂ e₂
    cases s₁ <;> cases s₂
    · have hswap : ((compare e₁ e₂).then (compare m₁ m₂)).swap
          = compare (-((m₁ : Rat) * 2 ^ e₁)) (-(m₂ * 2 ^ e₂)) := by
        rw [compare_canonical h₁ h₂]
        rcases lt_trichotomy ((m₁ : Rat) * 2 ^ e₁) (m₂ * 2 ^ e₂) with hlt | heq | hgt
        · rw [compare_lt_iff_lt.mpr hlt, compare_gt_iff_gt.mpr (neg_lt_neg hlt)]
          rfl
        · rw [heq, compare_eq_iff_eq.mpr rfl, compare_eq_iff_eq.mpr rfl]
          rfl
        · rw [compare_gt_iff_gt.mpr hgt, compare_lt_iff_lt.mpr (neg_lt_neg hgt)]
          rfl
      simpa [UnpackedFloat.compare, unpackedValue, Sign.apply] using hswap
    · refine congrArg some (compare_lt_iff_lt.mpr ?_).symm
      simp only [unpackedValue, Sign.apply, Int.cast_neg, Int.cast_natCast, neg_mul]
      linarith
    · refine congrArg some (compare_gt_iff_gt.mpr ?_).symm
      simp only [unpackedValue, Sign.apply, Int.cast_neg, Int.cast_natCast, neg_mul]
      linarith
    · simpa [UnpackedFloat.compare, unpackedValue, Sign.apply] using compare_canonical h₁ h₂

theorem le_iff_value_le {x y : Float} (hx : x.isFinite = true) (hy : y.isFinite = true) :
    le x y = true ↔ value x ≤ value y := by
  have hle : le x y = true ↔ (x.toModel.unpack.compare y.toModel.unpack).any (·.isLE) = true := by
    show decide (decide (x.toModel ≤ y.toModel) = true) = true ↔ _
    rw [decide_eq_true_iff, decide_eq_true_iff]
    rfl
  rw [hle, compare_unpack hx hy, Option.any_some, ← compare_le_iff_le, Ordering.isLE_iff_ne_gt]

theorem lt_iff_value_lt {x y : Float} (hx : x.isFinite = true) (hy : y.isFinite = true) :
    lt x y = true ↔ value x < value y := by
  have hlt : lt x y = true ↔ (x.toModel.unpack.compare y.toModel.unpack == some .lt) = true := by
    show decide (decide (x.toModel < y.toModel) = true) = true ↔ _
    rw [decide_eq_true_iff, decide_eq_true_iff]
    rfl
  rw [hlt, compare_unpack hx hy, ← compare_lt_iff_lt, beq_iff_eq, Option.some_inj]

end TextRepair.Score
