import Mathlib
import TouchOff.Number.Exact

/-!
# Values of doubles

The rational number that a double stands for (`value`), and the order of doubles as the order of
their values: `lt_iff_value`, `le_iff_value` and `beq_iff_value` hold of any two doubles that are
numbers. What is not a number compares with nothing (`not_lt_of_isNaN` and its companions).

The exact form of a double (`Exact.ofFloat`) is read off its bits, its arithmetic is defined on the
form that `Float.Model.unpack` gives. The two forms are the same number
(`Exact.ofFloat_eq_ofUnpacked`), so a fact about one of them is a fact about the other.
-/

open Float.Model Float.Model.UnpackedFloat

namespace TouchOff

/-! ## The two exact forms of a double -/

/-- Whether a sign is minus. -/
def isMinus : Sign → Bool
  | .negative => true
  | .positive => false

/-- The exact form of a double that was unpacked. -/
def Exact.ofUnpacked : UnpackedFloat → Exact
  | .notANumber => .nan
  | .infinity s => .infinite (isMinus s)
  | .zero s => .finite (isMinus s) 0 (-1074)
  | .finite s m e _ => .finite (isMinus s) m e

/-- The exponent field is the eleven bits above the mantissa field. -/
theorem exponent_toNat (b : BitVec 64) :
    (@unpackExponent .binary64 b).toNat = b.toNat / 2 ^ 52 % 2 ^ 11 := by
  simp [unpackExponent, BitVec.extractLsb, Nat.shiftRight_eq_div_pow]

/-- The mantissa field is the lowest 52 bits. -/
theorem mantissa_toNat (b : BitVec 64) :
    (@unpackMantissa .binary64 b).toNat = b.toNat % 2 ^ 52 := by
  simp [unpackMantissa, BitVec.extractLsb]

/-- The sign field is the highest bit. -/
theorem sign_toNat (b : BitVec 64) :
    (@unpackSign .binary64 b).toNat = b.toNat / 2 ^ 63 := by
  have : b.toNat < 2 ^ 64 := b.isLt
  simp [unpackSign, BitVec.extractLsb, Nat.shiftRight_eq_div_pow]
  omega

/-- A sign bit that is set means minus. -/
theorem isMinus_ofBitVec (b : BitVec 1) : isMinus (Sign.ofBitVec b) = (b.toNat != 0) := by
  revert b
  decide

/-- The mantissa of a normal number has the bit that is not stored in front of the stored ones. -/
theorem append_toNat (b : BitVec 52) : (1#1 ++ b).toNat = 2 ^ 52 + b.toNat := by
  rw [BitVec.toNat_append, ← Nat.shiftLeft_add_eq_or_of_lt b.isLt]
  simp [Nat.shiftLeft_eq]

/-- The sign, the scale and the fraction that the exact form is made of are the fields of the
packed form. -/
theorem bits_fields (bits : UInt64) :
    (bits >>> 63 != 0) = isMinus (Sign.ofBitVec (@unpackSign .binary64 bits.toBitVec)) ∧
      ((bits >>> 52) &&& 0x7FF).toNat =
        (@unpackExponent .binary64 bits.toBitVec).toNat ∧
      (bits &&& 0xFFFFFFFFFFFFF).toNat =
        (@unpackMantissa .binary64 bits.toBitVec).toNat := by
  refine ⟨?_, ?_, ?_⟩
  · have h : (bits >>> 63).toNat = (@unpackSign .binary64 bits.toBitVec).toNat := by
      rw [sign_toNat]
      simp [Nat.shiftRight_eq_div_pow]
    rw [isMinus_ofBitVec, ← h]
    simp only [bne, ← UInt64.toNat_inj, beq_eq_decide, UInt64.toNat_ofNat]
  · rw [exponent_toNat]
    simpa [Nat.shiftRight_eq_div_pow] using Nat.and_two_pow_sub_one_eq_mod _ 11
  · rw [mantissa_toNat]
    simpa using Nat.and_two_pow_sub_one_eq_mod _ 52

/-- The exact form of a double is the one that its arithmetic is defined on. -/
theorem Exact.ofFloat_eq_ofUnpacked (x : Float) :
    Exact.ofFloat x = Exact.ofUnpacked x.toModel.unpack := by
  obtain ⟨⟨bits, valid⟩⟩ := x
  change Exact.ofBits bits = Exact.ofUnpacked (UnpackedFloat.unpack .binary64 bits.toBitVec)
  obtain ⟨hsign, hscale, hfraction⟩ := bits_fields bits
  unfold Exact.ofBits UnpackedFloat.unpack
  simp only [hsign, hscale, hfraction, beq_iff_eq]
  have hE : ∀ n : Nat, n < 2 ^ 11 →
      ((@unpackExponent .binary64 bits.toBitVec).toNat = n ↔
        @unpackExponent .binary64 bits.toBitVec = BitVec.ofNat 11 n) := by
    intro n hn
    rw [← BitVec.toNat_inj, BitVec.toNat_ofNat, Nat.mod_eq_of_lt hn]
  have hM : (@unpackMantissa .binary64 bits.toBitVec).toNat = 0 ↔
      @unpackMantissa .binary64 bits.toBitVec = 0#52 := by
    rw [← BitVec.toNat_inj]; rfl
  by_cases hinf : @unpackExponent .binary64 bits.toBitVec = -1#11
  · rw [if_pos ((hE 2047 (by decide)).2 hinf), if_pos hinf]
    by_cases hz : @unpackMantissa .binary64 bits.toBitVec = 0#52
    · rw [if_pos (hM.2 hz), if_pos hz]
      rfl
    · rw [if_neg (mt hM.1 hz), if_neg hz]
      rfl
  · rw [if_neg (mt (hE 2047 (by decide)).1 hinf), if_neg hinf]
    by_cases hsub : @unpackExponent .binary64 bits.toBitVec = 0#11
    · rw [if_pos ((hE 0 (by decide)).2 hsub), if_pos hsub]
      split
      · next hz => simp only [ofUnpacked, hM.2 hz]
      · simp [ofUnpacked, hsub, Format.exponentBias]
    · rw [if_neg (mt (hE 0 (by decide)).1 hsub), if_neg hsub]
      simp [ofUnpacked, append_toNat, Format.exponentBias]

/-! ## Values -/

/-- A rational with a sign, true for minus. -/
def signed (negative : Bool) (q : ℚ) : ℚ := if negative then -q else q

namespace Exact

/-- The first power of two that is too large for a double. -/
@[irreducible] def beyond : ℚ := 2 ^ (1024 : ℤ)

/-- That power of two is positive. -/
theorem beyond_pos : 0 < beyond := by rw [beyond]; positivity

/-- The rational that an exact number stands for. An infinity stands for the first power of two
that is too large, so that numbers have the order of their values. -/
def value : Exact → ℚ
  | nan => 0
  | infinite negative => signed negative beyond
  | finite negative m e => signed negative (m * 2 ^ e)

/-- What holds of the mantissa and the exponent of a finite double. -/
structure Canonical (m : Nat) (e : Int) : Prop where
  small : m < 2 ^ 53
  least : -1074 ≤ e
  greatest : e ≤ 971
  leading : e = -1074 ∨ 2 ^ 52 ≤ m

/-- The mantissa and the exponent that are read off a finite double are canonical. -/
theorem canonical_of_ofFloat {x : Float} {negative : Bool} {m : Nat} {e : Int}
    (h : ofFloat x = .finite negative m e) : Canonical m e := by
  obtain ⟨-, hscale, hfraction⟩ := bits_fields x.toBits
  rw [exponent_toNat] at hscale
  rw [mantissa_toNat] at hfraction
  unfold ofFloat ofBits at h
  simp only [beq_iff_eq] at h
  split at h
  · split at h <;> cases h
  · split at h
    · cases h
      exact ⟨by omega, by omega, by omega, .inl rfl⟩
    · cases h
      exact ⟨by omega, by omega, by omega, .inr (by omega)⟩

/-- A finite double is below the first power of two that is too large. -/
theorem Canonical.lt_beyond {m : Nat} {e : Int} (h : Canonical m e) :
    (m : ℚ) * 2 ^ e < beyond := by
  have hm : (m : ℚ) < 2 ^ (53 : ℤ) := by exact_mod_cast h.small
  have he : (2 : ℚ) ^ e ≤ 2 ^ (971 : ℤ) := zpow_le_zpow_right₀ (by norm_num) h.greatest
  calc (m : ℚ) * 2 ^ e < 2 ^ (53 : ℤ) * 2 ^ e := by gcongr
    _ ≤ 2 ^ (53 : ℤ) * 2 ^ (971 : ℤ) := by gcongr
    _ = beyond := by
      rw [← zpow_add₀ two_ne_zero, beyond, show (53 : ℤ) + 971 = 1024 by decide]

/-- Of two finite doubles of one sign the one with the greater exponent is the larger. -/
theorem Canonical.lt_of_exponent_lt {m n : Nat} {e f : Int} (hm : Canonical m e)
    (hn : Canonical n f) (hef : e < f) : (m : ℚ) * 2 ^ e < n * 2 ^ f := by
  have hn' : 2 ^ 52 ≤ n := hn.leading.resolve_left (by have := hm.least; omega)
  have h1 : (m : ℚ) < 2 ^ (53 : ℤ) := by exact_mod_cast hm.small
  have h2 : (2 : ℚ) ^ (52 : ℤ) ≤ n := by exact_mod_cast hn'
  calc (m : ℚ) * 2 ^ e < 2 ^ (53 : ℤ) * 2 ^ e := by gcongr
    _ = 2 ^ (52 : ℤ) * 2 ^ (e + 1) := by
      rw [← zpow_add₀ two_ne_zero, ← zpow_add₀ two_ne_zero]
      ring_nf
    _ ≤ 2 ^ (52 : ℤ) * 2 ^ f := by
      gcongr
      · norm_num
      · omega
    _ ≤ n * 2 ^ f := by gcongr

/-- Comparing exponents first and mantissas then compares the values. -/
theorem Canonical.compare_eq {m n : Nat} {e f : Int} (hm : Canonical m e) (hn : Canonical n f) :
    (compare e f).then (compare m n) = compare ((m : ℚ) * 2 ^ e) (n * 2 ^ f) := by
  rcases lt_trichotomy e f with h | rfl | h
  · rw [compare_lt_iff_lt.2 h, compare_lt_iff_lt.2 (hm.lt_of_exponent_lt hn h)]
    rfl
  · have hp : (0 : ℚ) < 2 ^ e := by positivity
    rw [compare_eq_iff_eq.2 rfl]
    rcases lt_trichotomy m n with h | rfl | h
    · rw [compare_lt_iff_lt.2 h, compare_lt_iff_lt.2 (by gcongr)]
      rfl
    · rw [compare_eq_iff_eq.2 rfl, compare_eq_iff_eq.2 rfl]
      rfl
    · rw [compare_gt_iff_gt.2 h, compare_gt_iff_gt.2 (by show _ < _; gcongr)]
      rfl
  · rw [compare_gt_iff_gt.2 h, compare_gt_iff_gt.2 (hn.lt_of_exponent_lt hm h)]
    rfl

end Exact

/-- The rational that a double stands for. -/
def value (x : Float) : ℚ := (Exact.ofFloat x).value

/-- The rational that an unpacked double stands for. -/
def unpackedValue (u : UnpackedFloat) : ℚ := (Exact.ofUnpacked u).value

/-- A double stands for what its unpacked form stands for. -/
theorem value_eq_unpackedValue (x : Float) : value x = unpackedValue x.toModel.unpack := by
  rw [value, Exact.ofFloat_eq_ofUnpacked, unpackedValue]

@[simp] theorem unpackedValue_infinity_negative :
    unpackedValue (.infinity .negative) = -Exact.beyond := rfl

@[simp] theorem unpackedValue_infinity_positive :
    unpackedValue (.infinity .positive) = Exact.beyond := rfl

@[simp] theorem unpackedValue_zero (s : Sign) : unpackedValue (.zero s) = 0 := by
  cases s <;> simp [unpackedValue, Exact.ofUnpacked, Exact.value, signed]

@[simp] theorem unpackedValue_finite_negative (m : Nat) (e : Int) (hm : 0 < m) :
    unpackedValue (.finite .negative m e hm) = -(m * 2 ^ e) := rfl

@[simp] theorem unpackedValue_finite_positive (m : Nat) (e : Int) (hm : 0 < m) :
    unpackedValue (.finite .positive m e hm) = m * 2 ^ e := rfl

/-- A double is not a number if its exact form is not. -/
theorem isNaN_iff (x : Float) : x.isNaN = true ↔ Exact.ofFloat x = .nan := by
  rw [Exact.ofFloat_eq_ofUnpacked]
  change x.toModel.unpack.isNaN = true ↔ _
  cases x.toModel.unpack <;> simp [UnpackedFloat.isNaN, Exact.ofUnpacked]

/-- A double is finite if its exact form has a mantissa and an exponent. -/
theorem isFinite_iff (x : Float) :
    x.isFinite = true ↔ ∃ negative m e, Exact.ofFloat x = .finite negative m e := by
  rw [Exact.ofFloat_eq_ofUnpacked]
  change x.toModel.unpack.isFinite = true ↔ _
  cases x.toModel.unpack <;> simp [UnpackedFloat.isFinite, Exact.ofUnpacked]

/-! ## Order -/

/-- The answer less is that of the comparison of a number with a greater one. -/
theorem some_lt_eq_compare {p q : ℚ} (h : p < q) : some Ordering.lt = some (compare p q) :=
  congrArg some (compare_lt_iff_lt.2 h).symm

/-- The answer greater is that of the comparison with a smaller one. -/
theorem some_gt_eq_compare {p q : ℚ} (h : q < p) : some Ordering.gt = some (compare p q) :=
  congrArg some (compare_gt_iff_gt.2 h).symm

/-- The answer equal is that of the comparison with the number itself. -/
theorem some_eq_eq_compare {p q : ℚ} (h : p = q) : some Ordering.eq = some (compare p q) :=
  congrArg some (compare_eq_iff_eq.2 h).symm

/-- Negating two numbers swaps their order. -/
theorem swap_compare (p q : ℚ) : (compare p q).swap = compare (-p) (-q) := by
  rcases lt_trichotomy p q with h | rfl | h
  · rw [compare_lt_iff_lt.2 h, compare_gt_iff_gt.2 (neg_lt_neg h)]
    rfl
  · rw [compare_eq_iff_eq.2 rfl, compare_eq_iff_eq.2 rfl]
    rfl
  · rw [compare_gt_iff_gt.2 h, compare_lt_iff_lt.2 (neg_lt_neg h)]
    rfl

/-- Unpacked doubles that are numbers compare as their values do. -/
theorem compare_eq_compare_value {u v : UnpackedFloat}
    (hu : u.isNaN = false) (hv : v.isNaN = false)
    (cu : ∀ {negative m e}, Exact.ofUnpacked u = .finite negative m e → Exact.Canonical m e)
    (cv : ∀ {negative m e}, Exact.ofUnpacked v = .finite negative m e → Exact.Canonical m e) :
    u.compare v = some (compare (unpackedValue u) (unpackedValue v)) := by
  have hb := Exact.beyond_pos
  cases u with
  | notANumber => cases hu
  | infinity s =>
    cases v with
    | notANumber => cases hv
    | infinity t =>
      cases s <;> cases t
      · exact some_eq_eq_compare rfl
      · exact some_lt_eq_compare (by simp; linarith)
      · exact some_gt_eq_compare (by simp; linarith)
      · exact some_eq_eq_compare rfl
    | zero t =>
      cases s
      · exact some_lt_eq_compare (by simpa using hb)
      · exact some_gt_eq_compare (by simpa using hb)
    | finite t n f hn =>
      have hn' : (0 : ℚ) < n * 2 ^ f := by positivity
      have hb' := (cv rfl).lt_beyond
      cases s <;> cases t
      · exact some_lt_eq_compare (by simpa using hb')
      · exact some_lt_eq_compare (by simp; linarith)
      · exact some_gt_eq_compare (by simp; linarith)
      · exact some_gt_eq_compare (by simpa using hb')
  | zero s =>
    cases v with
    | notANumber => cases hv
    | infinity t =>
      cases t
      · exact some_gt_eq_compare (by simpa using hb)
      · exact some_lt_eq_compare (by simpa using hb)
    | zero t => exact some_eq_eq_compare (by simp)
    | finite t n f hn =>
      have hn' : (0 : ℚ) < n * 2 ^ f := by positivity
      cases t
      · exact some_gt_eq_compare (by simpa using hn')
      · exact some_lt_eq_compare (by simpa using hn')
  | finite s m e hm =>
    have hm' : (0 : ℚ) < m * 2 ^ e := by positivity
    have hb' := (cu rfl).lt_beyond
    cases v with
    | notANumber => cases hv
    | infinity t =>
      cases s <;> cases t
      · exact some_gt_eq_compare (by simpa using hb')
      · exact some_lt_eq_compare (by simp; linarith)
      · exact some_gt_eq_compare (by simp; linarith)
      · exact some_lt_eq_compare (by simpa using hb')
    | zero t =>
      cases s
      · exact some_lt_eq_compare (by simpa using hm')
      · exact some_gt_eq_compare (by simpa using hm')
    | finite t n f hn =>
      have hn' : (0 : ℚ) < n * 2 ^ f := by positivity
      have hcmp := (cu rfl).compare_eq (cv rfl)
      cases s <;> cases t
      · exact congrArg some ((congrArg Ordering.swap hcmp).trans (swap_compare _ _))
      · exact some_lt_eq_compare (by simp; linarith)
      · exact some_gt_eq_compare (by simp; linarith)
      · exact congrArg some hcmp

/-- Doubles that are numbers compare as their values do. -/
theorem compare_unpack {x y : Float} (hx : ¬ x.isNaN) (hy : ¬ y.isNaN) :
    x.toModel.unpack.compare y.toModel.unpack = some (compare (value x) (value y)) := by
  rw [value_eq_unpackedValue, value_eq_unpackedValue]
  refine compare_eq_compare_value (Bool.eq_false_of_not_eq_true hx)
    (Bool.eq_false_of_not_eq_true hy) ?_ ?_
  all_goals
    intro negative m e h
    rw [← Exact.ofFloat_eq_ofUnpacked] at h
    exact Exact.canonical_of_ofFloat h

/-- What is not a number has no order. -/
theorem compare_unpack_eq_none {x y : Float} (h : x.isNaN ∨ y.isNaN) :
    x.toModel.unpack.compare y.toModel.unpack = none := by
  change x.toModel.unpack.isNaN = true ∨ y.toModel.unpack.isNaN = true at h
  cases hx : x.toModel.unpack <;> cases hy : y.toModel.unpack <;>
    simp [hx, hy, UnpackedFloat.isNaN] at h <;> simp [UnpackedFloat.compare]

section
variable {x y : Float}

/-- A double is below another one if they compare so. -/
theorem lt_iff_compare : x < y ↔ x.toModel.unpack.compare y.toModel.unpack = some .lt := by
  change decide ((_ == _) = true) = true ↔ _
  rw [decide_eq_true_iff, beq_iff_eq]

/-- A double is at most another one if it compares as less or equal. -/
theorem le_iff_compare :
    x ≤ y ↔ (x.toModel.unpack.compare y.toModel.unpack).any (·.isLE) = true := by
  change decide (_ = true) = true ↔ _
  rw [decide_eq_true_iff]
  rfl

/-- Doubles are equal if they compare so. -/
theorem beq_iff_compare :
    (x == y) = true ↔ x.toModel.unpack.compare y.toModel.unpack = some .eq := by
  change (x.toModel.unpack.compare y.toModel.unpack == some .eq) = true ↔ _
  rw [beq_iff_eq]

/-- Of two numbers one is below the other if its value is. -/
theorem lt_iff_value (hx : ¬ x.isNaN) (hy : ¬ y.isNaN) : x < y ↔ value x < value y := by
  rw [lt_iff_compare, compare_unpack hx hy, Option.some.injEq, compare_lt_iff_lt]

/-- Of two numbers one is at most the other if its value is. -/
theorem le_iff_value (hx : ¬ x.isNaN) (hy : ¬ y.isNaN) : x ≤ y ↔ value x ≤ value y := by
  rw [le_iff_compare, compare_unpack hx hy, Option.any_some, Ordering.isLE_iff_ne_gt,
    ← not_lt]
  exact not_congr compare_gt_iff_gt

/-- Two numbers are equal if their values are. -/
theorem beq_iff_value (hx : ¬ x.isNaN) (hy : ¬ y.isNaN) :
    (x == y) = true ↔ value x = value y := by
  rw [beq_iff_compare, compare_unpack hx hy, Option.some.injEq, compare_eq_iff_eq]

/-- What is not a number is below nothing, and nothing is below it. -/
theorem not_lt_of_isNaN (h : x.isNaN ∨ y.isNaN) : ¬ x < y := by
  rw [lt_iff_compare, compare_unpack_eq_none h]
  exact nofun

/-- Nor is it at most anything, or anything at most it. -/
theorem not_le_of_isNaN (h : x.isNaN ∨ y.isNaN) : ¬ x ≤ y := by
  rw [le_iff_compare, compare_unpack_eq_none h]
  exact nofun

/-- It equals nothing. -/
theorem not_beq_of_isNaN (h : x.isNaN ∨ y.isNaN) : ¬ (x == y) = true := by
  rw [beq_iff_compare, compare_unpack_eq_none h]
  exact nofun

/-- A double is below another one if both are numbers and their values say so. -/
theorem lt_iff : x < y ↔ (¬ x.isNaN ∧ ¬ y.isNaN) ∧ value x < value y := by
  by_cases h : x.isNaN ∨ y.isNaN
  · exact iff_of_false (not_lt_of_isNaN h) fun hlt => not_and_or.2 (h.imp not_not.2 not_not.2) hlt.1
  · obtain ⟨hx, hy⟩ := not_or.1 h
    rw [lt_iff_value hx hy, and_iff_right ⟨hx, hy⟩]

/-- A double is at most another one if both are numbers and the values are so. -/
theorem le_iff : x ≤ y ↔ (¬ x.isNaN ∧ ¬ y.isNaN) ∧ value x ≤ value y := by
  by_cases h : x.isNaN ∨ y.isNaN
  · exact iff_of_false (not_le_of_isNaN h) fun hle => not_and_or.2 (h.imp not_not.2 not_not.2) hle.1
  · obtain ⟨hx, hy⟩ := not_or.1 h
    rw [le_iff_value hx hy, and_iff_right ⟨hx, hy⟩]

/-- Doubles are equal if both are numbers with one value. -/
theorem beq_iff : (x == y) = true ↔ (¬ x.isNaN ∧ ¬ y.isNaN) ∧ value x = value y := by
  by_cases h : x.isNaN ∨ y.isNaN
  · exact iff_of_false (not_beq_of_isNaN h)
      fun heq => not_and_or.2 (h.imp not_not.2 not_not.2) heq.1
  · obtain ⟨hx, hy⟩ := not_or.1 h
    rw [beq_iff_value hx hy, and_iff_right ⟨hx, hy⟩]

/-- Equality goes both ways. -/
theorem beq_symm (h : (x == y) = true) : (y == x) = true := by
  obtain ⟨⟨hx, hy⟩, hvalue⟩ := beq_iff.1 h
  exact beq_iff.2 ⟨⟨hy, hx⟩, hvalue.symm⟩

/-- What equals the same double is equal. -/
theorem beq_trans {z : Float} (h : (x == y) = true) (h' : (y == z) = true) : (x == z) = true := by
  obtain ⟨⟨hx, -⟩, hvalue⟩ := beq_iff.1 h
  obtain ⟨⟨-, hz⟩, hvalue'⟩ := beq_iff.1 h'
  exact beq_iff.2 ⟨⟨hx, hz⟩, hvalue.trans hvalue'⟩

/-! Numerically equal doubles compare alike with every other one. -/

/-- Equal doubles are below the same ones. -/
theorem lt_left_iff_of_beq {z : Float} (h : (x == y) = true) : x < z ↔ y < z := by
  obtain ⟨⟨hx, hy⟩, hvalue⟩ := beq_iff.1 h
  rw [lt_iff, lt_iff, hvalue, and_iff_right hx, and_iff_right hy]

/-- Equal doubles are above the same ones. -/
theorem lt_right_iff_of_beq {z : Float} (h : (x == y) = true) : z < x ↔ z < y := by
  obtain ⟨⟨hx, hy⟩, hvalue⟩ := beq_iff.1 h
  rw [lt_iff, lt_iff, hvalue, and_iff_left hx, and_iff_left hy]

/-- Equal doubles are at most the same ones. -/
theorem le_left_iff_of_beq {z : Float} (h : (x == y) = true) : x ≤ z ↔ y ≤ z := by
  obtain ⟨⟨hx, hy⟩, hvalue⟩ := beq_iff.1 h
  rw [le_iff, le_iff, hvalue, and_iff_right hx, and_iff_right hy]

/-- Equal doubles are at least the same ones. -/
theorem le_right_iff_of_beq {z : Float} (h : (x == y) = true) : z ≤ x ↔ z ≤ y := by
  obtain ⟨⟨hx, hy⟩, hvalue⟩ := beq_iff.1 h
  rw [le_iff, le_iff, hvalue, and_iff_left hx, and_iff_left hy]

/-! A comparison that fails says that its converse holds, but only between numbers. -/

/-- What is not at least another double is below it if both are numbers. -/
theorem lt_iff_of_not_le (h : ¬ y ≤ x) : x < y ↔ ¬ x.isNaN ∧ ¬ y.isNaN := by
  rw [lt_iff, and_iff_left_iff_imp]
  exact fun hnumbers => not_le.1 ((le_iff_value hnumbers.2 hnumbers.1).not.1 h)

/-- What is not above another double is at most it if both are numbers. -/
theorem le_iff_of_not_lt (h : ¬ y < x) : x ≤ y ↔ ¬ x.isNaN ∧ ¬ y.isNaN := by
  rw [le_iff, and_iff_left_iff_imp]
  exact fun hnumbers => not_lt.1 ((lt_iff_value hnumbers.2 hnumbers.1).not.1 h)

end

end TouchOff
