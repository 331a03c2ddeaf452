import TouchOff.Number.Whole
import TouchOff.Proofs.Number.Error

/-!
# Whole numbers of steps

A step count that is not too large is a double (`value_ofInt`), and a double that is less than a
half away from a whole number goes to that whole number (`nearestWhole_eq`).
-/

open Float.Model Float.Model.UnpackedFloat

namespace TouchOff

/-- What is rounded to a number that is a double is that number, and finite. -/
theorem Rounded.value_eq {q : ℚ} {x : Float} (h : Rounded q x) (hq : Representable q)
    (hbeyond : |q| < Exact.beyond) : x.isFinite ∧ value x = q := by
  have hvalue := h.roundsTo.eq_of_representable hq hbeyond.le
  exact ⟨isFinite_of_abs_value_lt h.number (hvalue ▸ hbeyond), hvalue⟩

/-! ## Doubles of whole numbers -/

/-- A whole number of no more than 53 bits is a double. -/
theorem representable_int {n : ℤ} (hn : |n| < 2 ^ 53) :
    Representable n ∧ |(n : ℚ)| < Exact.beyond := by
  refine ⟨⟨n, 0, hn, by decide, by simp⟩, ?_⟩
  have hn' : |(n : ℚ)| < 2 ^ (53 : ℤ) := by exact_mod_cast hn
  rw [Exact.beyond]
  exact hn'.trans (zpow_lt_zpow_right₀ one_lt_two (by decide))

/-- The mantissa and the exponent of one. -/
theorem ofFloat_one : Exact.ofFloat 1.0 = .finite false (2 ^ 52) (-52) := by decide

/-- The double one stands for one. -/
theorem value_one : value 1.0 = 1 := by
  rw [value, ofFloat_one]
  norm_num [Exact.value, signed]

/-- The double one is finite. -/
theorem isFinite_one : (1.0 : Float).isFinite := (isFinite_iff _).2 ⟨_, _, _, ofFloat_one⟩

/-- A natural number of up to 53 bits is turned into a double by way of its machine word. -/
theorem ofNat_eq_mul {n : ℕ} (hn : n < 2 ^ 53) : Float.ofNat n = n.toUInt64.toFloat * 1.0 := by
  change Float.ofScientific n false 0 = _
  rw [Float.ofScientific, dif_pos ⟨hn, by decide⟩]
  rfl

/-- Its double is finite and stands for it. -/
theorem value_ofNat {n : ℕ} (hn : n < 2 ^ 53) :
    (Float.ofNat n).isFinite ∧ value (Float.ofNat n) = n := by
  have hn' : |(n : ℤ)| < 2 ^ 53 := by rw [Nat.abs_cast]; exact_mod_cast hn
  obtain ⟨hrepresentable, hbeyond⟩ := representable_int hn'
  have hunscaled : n.toUInt64.toFloat.isFinite ∧ value n.toUInt64.toFloat = (n : ℤ) := by
    have hround := rounded_normalize n 0 .positive
    rw [zpow_zero, mul_one] at hround
    have hsame : packed (normalize .binary64 n 0 .positive) = n.toUInt64.toFloat := by
      have hmod : n.toUInt64.toNat = n := by
        rw [Nat.toUInt64, UInt64.toNat_ofNat']
        exact Nat.mod_eq_of_lt (hn.trans (by decide))
      change _ = packed (normalize .binary64 n.toUInt64.toNat 0 .positive)
      rw [hmod]
    rw [hsame] at hround
    exact hround.value_eq hrepresentable hbeyond
  have hproduct := rounded_product hunscaled.1 isFinite_one
  rw [hunscaled.2, value_one, mul_one, ← ofNat_eq_mul hn] at hproduct
  exact_mod_cast hproduct.value_eq hrepresentable hbeyond

/-- The opposite of a double. -/
theorem value_neg {x : Float} (hx : x.isFinite) : (-x).isFinite ∧ value (-x) = -value x := by
  have hneg : -x = packed x.toModel.unpack.neg := rfl
  have hexact := ofFloat_packed_canonical (canonical_neg (canonical_unpack x))
  have hvalue : value (-x) = -value x := by
    rw [hneg, value, hexact, value_eq_unpackedValue, ← unpackedValue_neg]
    rfl
  have hnumber : ¬ (-x).isNaN := by
    have hneg_number : ∀ u : UnpackedFloat, u.isFinite = true → u.neg.isNaN = false := by
      intro u hu
      cases u <;> first | rfl | cases hu
    exact (rounded_packed (canonical_neg (canonical_unpack x)) (hneg_number _ hx)).number
  refine ⟨isFinite_of_abs_value_lt hnumber ?_, hvalue⟩
  rw [hvalue, abs_neg]
  exact (representable_value hx).2

/-- A step count of no more than 53 bits is a double. -/
theorem value_ofInt {n : ℤ} (hn : |n| < 2 ^ 53) :
    (Float.ofInt n).isFinite ∧ value (Float.ofInt n) = n := by
  cases n with
  | ofNat n =>
    have hn' : n < 2 ^ 53 := by
      rw [Int.ofNat_eq_natCast, Nat.abs_cast] at hn
      exact_mod_cast hn
    exact value_ofNat hn'
  | negSucc n =>
    have hn' : n + 1 < 2 ^ 53 := by
      rw [Int.negSucc_eq, abs_neg] at hn
      exact_mod_cast hn
    obtain ⟨hfinite, hvalue⟩ := value_ofNat hn'
    obtain ⟨hfinite', hvalue'⟩ := value_neg hfinite
    refine ⟨hfinite', hvalue'.trans ?_⟩
    rw [hvalue, Int.negSucc_eq]
    push_cast
    rfl

/-! ## The nearest whole number -/

/-- A quotient is rounded by no more than a half. -/
theorem abs_roundedQuotient_sub_le (n : ℕ) {d : ℕ} (hd : 0 < d) :
    |(roundedQuotient .awayFromZero n d : ℚ) - n / d| ≤ 1 / 2 := by
  have hd' : (0 : ℚ) < d := by exact_mod_cast hd
  have hdiv : (n : ℚ) / d = (n / d : ℕ) + (n % d : ℕ) / d := by
    have hsplit : (n : ℚ) = (n / d : ℕ) * d + (n % d : ℕ) := by
      exact_mod_cast (Nat.div_add_mod' n d).symm
    rw [add_div', ← hsplit]
    exact hd'.ne'
  have hmod : (0 : ℚ) ≤ (n % d : ℕ) / d := by positivity
  rw [hdiv, abs_le]
  cases hcompare : compare (2 * (n % d)) d with
  | lt =>
    have hlt : ((n % d : ℕ) : ℚ) / d < 1 / 2 := by
      have : 2 * (n % d) < d := Nat.compare_eq_lt.1 hcompare
      rw [div_lt_div_iff₀ hd' two_pos]
      exact_mod_cast (by omega : n % d * 2 < 1 * d)
    simp only [roundedQuotient, hcompare]
    constructor <;> linarith
  | eq =>
    have heq : ((n % d : ℕ) : ℚ) / d = 1 / 2 := by
      have : 2 * (n % d) = d := Nat.compare_eq_eq.1 hcompare
      rw [div_eq_div_iff hd'.ne' two_ne_zero]
      exact_mod_cast (by omega : n % d * 2 = 1 * d)
    simp only [roundedQuotient, hcompare]
    push_cast
    constructor <;> linarith
  | gt =>
    have hgt : (1 : ℚ) / 2 < ((n % d : ℕ) : ℚ) / d := by
      have : d < 2 * (n % d) := Nat.compare_eq_gt.1 hcompare
      rw [div_lt_div_iff₀ two_pos hd']
      exact_mod_cast (by omega : 1 * d < n % d * 2)
    have hlt : ((n % d : ℕ) : ℚ) / d < 1 := by
      rw [div_lt_one hd']
      exact_mod_cast Nat.mod_lt n hd
    simp only [roundedQuotient, hcompare]
    push_cast
    constructor <;> linarith

/-- A whole number that a mantissa is rounded to is at most a half away. -/
theorem abs_roundedBinary_sub_le (m : ℕ) (e : ℤ) :
    |(roundedBinary .awayFromZero m e 1 : ℚ) - m * 2 ^ e| ≤ 1 / 2 := by
  have hscale : ((m * 1 * Nat.pow 2 e.toNat : ℕ) : ℚ) / (Nat.pow 2 (-e).toNat : ℕ) = m * 2 ^ e := by
    have hpow : (2 : ℚ) ^ e * 2 ^ (-e).toNat = 2 ^ e.toNat := by
      rw [← zpow_natCast, ← zpow_natCast, ← zpow_add₀ two_ne_zero]
      congr 1
      omega
    rw [Nat.pow_eq, Nat.pow_eq, mul_one, div_eq_iff (by positivity)]
    push_cast
    rw [mul_assoc, hpow]
  rw [← hscale]
  exact abs_roundedQuotient_sub_le _ (Nat.pow_pos two_pos)

/-- A finite double goes to a whole number that is at most a half away, within the range of a step
count. -/
theorem nearestWhole_spec {x : Float} (hx : x.isFinite) :
    ∃ r : ℤ, nearestWhole x = max leastCount (min greatestCount r) ∧ |value x - r| ≤ 1 / 2 := by
  obtain ⟨negative, m, e, hexact⟩ := (isFinite_iff x).1 hx
  refine ⟨if negative then -(roundedBinary .awayFromZero m e 1 : ℤ)
    else roundedBinary .awayFromZero m e 1, by rw [nearestWhole, hexact], ?_⟩
  have hround := abs_roundedBinary_sub_le m e
  rw [value, hexact, Exact.value, signed]
  cases negative with
  | false =>
    rw [abs_sub_comm] at hround
    exact_mod_cast hround
  | true =>
    simp only [if_true]
    push_cast
    rwa [neg_sub_neg]

/-- A double that is less than a half away from a step count goes to it. -/
theorem nearestWhole_eq {x : Float} {n : ℤ} (hx : x.isFinite) (hn : |n| < 2 ^ 53)
    (h : |value x - n| < 1 / 2) : nearestWhole x = n := by
  obtain ⟨r, hr, hhalf⟩ := nearestWhole_spec hx
  have hone : |((r - n : ℤ) : ℚ)| < 1 := by
    rw [abs_lt] at h ⊢
    rw [abs_le] at hhalf
    push_cast
    constructor <;> linarith
  have hsame : r - n = 0 := Int.abs_lt_one_iff.1 (by exact_mod_cast hone)
  rw [hr]
  rw [abs_lt] at hn
  have hleast : leastCount = -0x8000000000000000 := rfl
  have hgreatest : greatestCount = 0x7FFFFFFFFFFFFFFF := rfl
  omega

/-- A step count that is not one of the extreme ones is at most a half away from the double that
goes to it. -/
theorem abs_sub_nearestWhole_le {x : Float} (hx : x.isFinite) (hn : |nearestWhole x| < 2 ^ 53) :
    |value x - nearestWhole x| ≤ 1 / 2 := by
  obtain ⟨r, hr, hhalf⟩ := nearestWhole_spec hx
  have hsame : nearestWhole x = r := by
    rw [abs_lt] at hn
    have hleast : leastCount = -0x8000000000000000 := rfl
    have hgreatest : greatestCount = 0x7FFFFFFFFFFFFFFF := rfl
    omega
  rwa [hsame]

end TouchOff
