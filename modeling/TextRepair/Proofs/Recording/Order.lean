import TextRepair.Proofs.Recording
import Mathlib.Tactic.Ring

/-!
# Cycle files in the order of their names

The files of cycles are listed in the order of their names as texts. Names differ in their digits only, of
which there are three at least, and what stands behind the digits comes before every digit. So two names
are compared like the decimal fractions with their digits, the shorter one first if these are equal
(`Recording.cycleName_lt_iff`): cycle 1000 stands between 100 and 101. Cycles with as many digits stand in
their order, as all cycles below 1000 do.
-/

namespace TextRepair.Recording

/-! ### Texts of digits -/

/-- The number with the digits `x`. -/
def valueOf (x : List Char) : Nat :=
  Nat.ofDigitChars 10 x 0

/-- The fraction with the digits `x` is less than that with the digits `y`, or it is the same with fewer
digits. -/
def DigitsBefore (x y : List Char) : Prop :=
  valueOf x * 10 ^ y.length < valueOf y * 10 ^ x.length ∨
    valueOf x * 10 ^ y.length = valueOf y * 10 ^ x.length ∧ x.length < y.length

theorem valueOf_cons (c : Char) (x : List Char) :
    valueOf (c :: x) = (c.toNat - '0'.toNat) * 10 ^ x.length + valueOf x := by
  rw [valueOf, valueOf, Nat.ofDigitChars_cons, Nat.ofDigitChars_eq_ofDigitChars_zero, Nat.mul_zero,
    Nat.zero_add, Nat.mul_comm]

theorem valueOf_lt {x : List Char} (hx : ∀ c ∈ x, c.isDigit = true) : valueOf x < 10 ^ x.length := by
  induction x with
  | nil => exact Nat.one_pos
  | cons c x ih =>
    rw [List.forall_mem_cons] at hx
    have hdigit : c.toNat - '0'.toNat + 1 ≤ 10 := by
      have hbounds : '0'.toNat ≤ c.toNat ∧ c.toNat ≤ 57 := Char.isDigit_iff_toNat.mp hx.1
      show c.toNat - 48 + 1 ≤ 10
      omega
    have hrest := ih hx.2
    have hle := Nat.mul_le_mul_right (10 ^ x.length) hdigit
    rw [Nat.succ_mul] at hle
    rw [valueOf_cons, List.length_cons, Nat.pow_succ']
    omega

theorem digitsBefore_cons_cons {c d : Char} {x y : List Char} (hx : ∀ e ∈ c :: x, e.isDigit = true)
    (hy : ∀ e ∈ d :: y, e.isDigit = true) :
    DigitsBefore (c :: x) (d :: y) ↔ c < d ∨ c = d ∧ DigitsBefore x y := by
  rw [List.forall_mem_cons] at hx hy
  have hc : 48 ≤ c.toNat ∧ c.toNat ≤ 57 := Char.isDigit_iff_toNat.mp hx.1
  have hd : 48 ≤ d.toNat ∧ d.toNat ≤ 57 := Char.isDigit_iff_toNat.mp hy.1
  have hlt : c < d ↔ c.toNat < d.toNat := Iff.rfl
  have heq : c = d ↔ c.toNat = d.toNat := Char.toNat_inj.symm
  -- Both sides times the same power of ten; what follows the first digits is less than one unit of them.
  obtain ⟨unit, hunit⟩ : ∃ unit, unit = 10 ^ x.length * 10 ^ y.length := ⟨_, rfl⟩
  obtain ⟨u, hu⟩ : ∃ u, u = valueOf x * 10 ^ y.length := ⟨_, rfl⟩
  obtain ⟨v, hv⟩ : ∃ v, v = valueOf y * 10 ^ x.length := ⟨_, rfl⟩
  have hu_lt : u < unit := by
    rw [hu, hunit]
    exact Nat.mul_lt_mul_of_pos_right (valueOf_lt hx.2) (Nat.pow_pos (by decide))
  have hv_lt : v < unit := by
    rw [hv, hunit, Nat.mul_comm (10 ^ x.length)]
    exact Nat.mul_lt_mul_of_pos_right (valueOf_lt hy.2) (Nat.pow_pos (by decide))
  have hleft : valueOf (c :: x) * 10 ^ (d :: y).length = 10 * ((c.toNat - 48) * unit + u) := by
    rw [valueOf_cons, List.length_cons, hu, hunit, Nat.pow_succ]
    show ((c.toNat - 48) * _ + _) * _ = _
    ring
  have hright : valueOf (d :: y) * 10 ^ (c :: x).length = 10 * ((d.toNat - 48) * unit + v) := by
    rw [valueOf_cons, List.length_cons, hv, hunit, Nat.pow_succ]
    show ((d.toNat - 48) * _ + _) * _ = _
    ring
  rw [DigitsBefore, DigitsBefore, hleft, hright, List.length_cons, List.length_cons, ← hu, ← hv, hlt, heq]
  rcases Nat.lt_trichotomy c.toNat d.toNat with h | h | h
  · have hle := Nat.mul_le_mul_right unit (show c.toNat - 48 + 1 ≤ d.toNat - 48 by omega)
    rw [Nat.succ_mul] at hle
    omega
  · rw [h]
    omega
  · have hle := Nat.mul_le_mul_right unit (show d.toNat - 48 + 1 ≤ c.toNat - 48 by omega)
    rw [Nat.succ_mul] at hle
    omega

/-- Digits before a point are compared as fractions. -/
theorem append_lt_append_iff {x y : List Char} (hx : ∀ c ∈ x, c.isDigit = true)
    (hy : ∀ c ∈ y, c.isDigit = true) (rest : List Char) :
    x ++ '.' :: rest < y ++ '.' :: rest ↔ DigitsBefore x y := by
  have hpoint : ∀ {c : Char}, c.isDigit = true → '.' < c := fun hc =>
    Nat.lt_of_lt_of_le (by decide) (Char.isDigit_iff_toNat.mp hc).1
  induction x generalizing y with
  | nil =>
    cases y with
    | nil => simp [DigitsBefore]
    | cons d y =>
      have hd := hpoint (hy d List.mem_cons_self)
      refine iff_of_true (List.cons_lt_cons_iff.mpr (Or.inl hd)) ?_
      rw [DigitsBefore]
      simp only [valueOf, Nat.ofDigitChars_nil, List.length_nil, List.length_cons]
      omega
  | cons c x ih =>
    cases y with
    | nil =>
      have hc := hpoint (hx c List.mem_cons_self)
      refine iff_of_false ?_ ?_
      · exact List.lt_asymm (List.cons_lt_cons_iff.mpr (Or.inl hc))
      · simp [DigitsBefore, valueOf]
    | cons d y =>
      have hrest := ih (fun e he => hx e (List.mem_cons_of_mem _ he)) fun e he =>
        hy e (List.mem_cons_of_mem _ he)
      rw [List.cons_append, List.cons_append, List.cons_lt_cons_iff, digitsBefore_cons_cons hx hy]
      exact or_congr_right (and_congr_right fun _ => hrest)

/-! ### Names of cycle files -/

/-- The number of digits in the name of the file of a cycle. -/
def width (index : Nat) : Nat :=
  (padded index).length

/-- The files of two cycles are listed in this order. -/
def ListedBefore (a b : Nat) : Prop :=
  a * 10 ^ width b < b * 10 ^ width a ∨ a * 10 ^ width b = b * 10 ^ width a ∧ width a < width b

instance (a b : Nat) : Decidable (ListedBefore a b) :=
  inferInstanceAs (Decidable (_ ∨ _))

theorem valueOf_padded (index : Nat) : valueOf (padded index).toList = index := by
  rw [valueOf, padded, String.toList_ofList, Decimal.zeros, Decimal.digitsOf, Nat.ofDigitChars_append,
    Nat.ofDigitChars_replicate_zero, Nat.mul_zero, Nat.ofDigitChars_ten_toDigits]

theorem cycleName_lt_iff {a b : Nat} : cycleName a < cycleName b ↔ ListedBefore a b := by
  have hdigits := append_lt_append_iff (fun _ (hc : _ ∈ (padded a).toList) => isDigit_of_mem_padded hc)
    (fun _ (hc : _ ∈ (padded b).toList) => isDigit_of_mem_padded hc) "json".toList
  rw [DigitsBefore, valueOf_padded, valueOf_padded, String.length_toList, String.length_toList] at hdigits
  rw [ListedBefore, width, width, ← hdigits]
  show (cycleName a).toList < (cycleName b).toList ↔ _
  rw [toList_cycleName, toList_cycleName]
  show 'c' :: 'y' :: 'c' :: 'l' :: 'e' :: '-' :: _ < 'c' :: 'y' :: 'c' :: 'l' :: 'e' :: '-' :: _ ↔ _
  simp only [List.cons_lt_cons_self]
  rfl

example : cycleName 100 < cycleName 1000 ∧ cycleName 1000 < cycleName 101 := by
  rw [cycleName_lt_iff, cycleName_lt_iff]
  decide

theorem cycleName_injective {a b : Nat} (h : cycleName a = cycleName b) : a = b := by
  have hlist := congrArg String.toList h
  rw [toList_cycleName, toList_cycleName, List.append_cancel_right_eq, List.append_cancel_left_eq] at hlist
  rw [← valueOf_padded a, hlist, valueOf_padded]

theorem width_eq (index : Nat) : width index = max 3 (Nat.toDigits 10 index).length := by
  rw [width, padded, String.length_ofList, List.length_append, Decimal.zeros, List.length_replicate,
    Decimal.digitsOf]
  omega

theorem listedBefore_of_width_eq {a b : Nat} (h : width a = width b) : ListedBefore a b ↔ a < b := by
  rw [ListedBefore, h]
  have hpos : 0 < 10 ^ width b := Nat.pow_pos (by decide)
  rw [Nat.mul_lt_mul_right hpos]
  simp

theorem width_of_lt {index : Nat} (h : index < 1000) : width index = 3 := by
  rw [width_eq, Nat.max_eq_left]
  exact (Nat.length_toDigits_le_iff (by decide) (by decide)).mpr h

theorem not_listedBefore_thousand : ¬ListedBefore 999 1000 := by
  decide

theorem ListedBefore.asymm {a b : Nat} (h : ListedBefore a b) : ¬ListedBefore b a := by
  rw [← cycleName_lt_iff] at h ⊢
  exact String.lt_asymm h

theorem pairwise_listedBefore_range' {n : Nat} : (List.range' 1 n).Pairwise ListedBefore ↔ n < 1000 := by
  constructor
  · intro h
    by_contra hn
    rw [Nat.not_lt] at hn
    have hlast := List.pairwise_iff_getElem.mp h 998 999 (by rw [List.length_range']; omega)
      (by rw [List.length_range']; omega) (by decide)
    rw [List.getElem_range', List.getElem_range'] at hlast
    exact not_listedBefore_thousand hlast
  · intro hn
    refine (List.pairwise_lt_range' (s := 1) (n := n)).imp_of_mem fun ha hb hlt => ?_
    rw [List.mem_range'_1] at ha hb
    refine (listedBefore_of_width_eq ?_).mpr hlt
    rw [width_of_lt (by omega), width_of_lt (by omega)]

end TextRepair.Recording
