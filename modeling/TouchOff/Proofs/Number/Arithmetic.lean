import TouchOff.Number.Whole
import TouchOff.Proofs.Number.Rounding

/-!
# Arithmetic of doubles

Sums, differences and halves of doubles as rounded numbers (`rounded_sum`, `rounded_difference`,
`rounded_half`). From this follows that the middle of two doubles, computed as half of their sum, is
between them (`half_sum_between`), and what the smaller and the larger of two doubles are
(`lesser_eq`, `greater_eq`).
-/

open Float.Model Float.Model.UnpackedFloat

namespace TouchOff

/-! ## Operations -/

/-- What holds of an unpacked double: its mantissa and exponent are those of a double. -/
def Canonical (u : UnpackedFloat) : Prop :=
  ∀ {negative m e}, Exact.ofUnpacked u = .finite negative m e → Exact.Canonical m e

/-- An unpacked double has the mantissa and the exponent of a double. -/
theorem canonical_unpack (x : Float) : Canonical x.toModel.unpack := by
  intro negative m e h
  rw [← Exact.ofFloat_eq_ofUnpacked] at h
  exact Exact.canonical_of_ofFloat h

/-- Packing a canonical number keeps it. -/
theorem ofFloat_packed_canonical {u : UnpackedFloat} (h : Canonical u) :
    Exact.ofFloat (packed u) = Exact.ofUnpacked u := by
  cases u with
  | notANumber => decide
  | infinity s => cases s <;> decide
  | zero s => cases s <;> decide
  | finite s m e hm => exact ofFloat_packed_finite hm (h rfl)

/-- Packing a canonical number that is not NaN rounds its value, and so keeps it. -/
theorem rounded_packed {u : UnpackedFloat} (h : Canonical u) (hu : u.isNaN = false) :
    Rounded (unpackedValue u) (packed u) := by
  have hvalue : value (packed u) = unpackedValue u := by
    rw [value, ofFloat_packed_canonical h, unpackedValue]
  refine ⟨?_, fun g _ _ => by rw [hvalue]; exact ⟨id, id⟩⟩
  rw [isNaN_iff, ofFloat_packed_canonical h]
  cases u <;> simp_all [UnpackedFloat.isNaN, Exact.ofUnpacked]

/-- A mantissa with its sign, times the power of its exponent, is the value. -/
theorem cast_apply_mul (s : Sign) (m : Nat) (e : Int) (hm : 0 < m) :
    ((s.apply m : ℤ) : ℚ) * 2 ^ e = unpackedValue (.finite s m e hm) := by
  cases s <;> simp [Sign.apply]

/-- A mantissa that is shifted down to a lower exponent has the same value. -/
theorem cast_apply_shiftLeft_mul (s : Sign) {m : Nat} {e l : Int} (hm : 0 < m) (hle : l ≤ e) :
    ((s.apply (m <<< (e - l).toNat : Nat) : ℤ) : ℚ) * 2 ^ l = unpackedValue (.finite s m e hm) := by
  rw [cast_apply_mul s _ l (by rw [Nat.shiftLeft_eq]; positivity)]
  have hscale : ((m <<< (e - l).toNat : ℕ) : ℚ) * 2 ^ l = m * 2 ^ e := by
    rw [Nat.shiftLeft_eq]
    push_cast
    rw [mul_assoc, ← zpow_natCast, ← zpow_add₀ two_ne_zero]
    congr 2
    omega
  cases s <;> simp only [unpackedValue_finite_negative, unpackedValue_finite_positive, hscale]

/-- A finite number is a zero, or has a mantissa above zero. -/
theorem zero_or_finite {u : UnpackedFloat} (hu : u.isFinite = true) :
    (∃ s, u = .zero s) ∨ ∃ s m e hm, u = .finite s m e hm := by
  cases u with
  | notANumber | infinity s => cases hu
  | zero s => exact .inl ⟨s, rfl⟩
  | finite s m e hm => exact .inr ⟨s, m, e, hm, rfl⟩

/-- Adding unpacked numbers rounds their sum. -/
theorem rounded_add {u v : UnpackedFloat} (hu : u.isFinite) (hv : v.isFinite) (cu : Canonical u)
    (cv : Canonical v) :
    Rounded (unpackedValue u + unpackedValue v) (packed (UnpackedFloat.add .binary64 u v)) := by
  rcases zero_or_finite hu with ⟨s, rfl⟩ | ⟨s, m, e, hm, rfl⟩
  · rcases zero_or_finite hv with ⟨t, rfl⟩ | ⟨t, n, f, hn, rfl⟩
    · obtain ⟨r, hr⟩ : ∃ r, UnpackedFloat.add .binary64 (.zero s) (.zero t) = .zero r := by
        cases s <;> cases t <;> exact ⟨_, rfl⟩
      rw [hr, unpackedValue_zero, unpackedValue_zero, zero_add]
      exact rounded_zero r
    · rw [unpackedValue_zero, zero_add]
      exact rounded_packed cv rfl
  · rcases zero_or_finite hv with ⟨t, rfl⟩ | ⟨t, n, f, hn, rfl⟩
    · rw [unpackedValue_zero, add_zero]
      exact rounded_packed cu rfl
    · rw [← cast_apply_shiftLeft_mul s hm (min_le_left e f),
        ← cast_apply_shiftLeft_mul t hn (min_le_right e f), ← add_mul, ← Int.cast_add]
      exact rounded_normalize _ _ .positive

/-- The opposite sign makes the opposite number. -/
theorem apply_neg (s : Sign) (n : Int) : (-s).apply n = -s.apply n := by
  cases s
  · exact (neg_neg n).symm
  · rfl

/-- Subtracting is adding the number with the other sign. -/
theorem sub_eq_add_negated (u v : UnpackedFloat) :
    UnpackedFloat.sub .binary64 u v = UnpackedFloat.add .binary64 u v.neg := by
  cases u with
  | notANumber => cases v <;> rfl
  | infinity s => cases v <;> rfl
  | zero s => cases v <;> rfl
  | finite s m e hm =>
    cases v with
    | notANumber => rfl
    | infinity t => rfl
    | zero t => rfl
    | finite t n f hn =>
      simp only [UnpackedFloat.sub, UnpackedFloat.add, UnpackedFloat.neg, apply_neg, sub_eq_add_neg]

/-- Negating a double negates its value. -/
theorem unpackedValue_neg (u : UnpackedFloat) : unpackedValue u.neg = -unpackedValue u := by
  cases u with
  | notANumber => exact neg_zero.symm
  | infinity s =>
    cases s
    · exact (neg_neg _).symm
    · rfl
  | zero s => simp [UnpackedFloat.neg]
  | finite s m e hm =>
    cases s
    · exact (neg_neg _).symm
    · rfl

/-- The negative of a canonical number is canonical. -/
theorem canonical_neg {u : UnpackedFloat} (h : Canonical u) : Canonical u.neg := by
  intro negative m e hneg
  cases u with
  | notANumber => cases hneg
  | infinity s => cases hneg
  | zero s => cases hneg; exact h rfl
  | finite s n f hn => cases hneg; exact h rfl

/-- The negative of a double is finite if the double is. -/
theorem isFinite_neg (u : UnpackedFloat) : u.neg.isFinite = u.isFinite := by
  cases u <;> rfl

/-- The whole part of a quotient brackets it. -/
theorem brackets_quotient (n : Nat) {d : Nat} (hd : 0 < d) :
    Brackets (.ofMantissaAndAccuracy (n / d) (accuracyOfFraction (n % d) d)) (n / d) := by
  have hdiv : (d : ℚ) * (n / d : ℕ) + (n % d : ℕ) = n := by exact_mod_cast Nat.div_add_mod n d
  have hmod : ((n % d : ℕ) : ℚ) < d := by exact_mod_cast Nat.mod_lt n hd
  have hd' : (0 : ℚ) < d := by exact_mod_cast hd
  have hmod' : (0 : ℚ) ≤ (n % d : ℕ) := by positivity
  constructor
  · rw [mantissa_ofMantissaAndAccuracy, le_div_iff₀ hd']
    linarith
  · rw [mantissa_ofMantissaAndAccuracy, div_lt_iff₀ hd']
    linarith
  · rw [mantissa_ofMantissaAndAccuracy, div_eq_iff hd'.ne', mul_comm]
    by_cases hzero : n % d = 0
    · rw [hzero, Nat.cast_zero, add_zero] at hdiv
      rw [accuracyOfFraction, if_pos hzero]
      exact iff_of_true ⟨rfl, rfl⟩ hdiv.symm
    · rw [accuracyOfFraction, if_neg hzero]
      refine iff_of_false ?_ fun h => hzero ?_
      · cases compare (2 * (n % d)) d <;> exact nofun
      · exact_mod_cast (by linarith : ((n % d : ℕ) : ℚ) = 0)

/-- The quotient of two mantissas is computed to enough bits. -/
theorem le_roundedExponent_quotient {m n : Nat} {e f : Int} (hm : 0 < m) (hn : 0 < n) :
    (divCore .binary64 m e n f).2.1 ≤
      roundedExponent (divCore .binary64 m e n f).1 (divCore .binary64 m e n f).2.1 := by
  have htarget : Format.binary64.targetExponent (totalExponent m e - totalExponent n f) =
      max (m.log2 - n.log2 + (e - f) - 53) (-1074) := by
    simp only [Format.targetExponent, totalExponent, Format.mantissaBits, Format.minExponent]
    norm_num
    omega
  obtain ⟨t, ht⟩ : ∃ t, t = min (e - f) (max (m.log2 - n.log2 + (e - f) - 53) (-1074)) := ⟨_, rfl⟩
  simp only [divCore, htarget, ← ht, Nat.shiftLeft_eq, roundedExponent]
  by_cases hleast : t ≤ -1074
  · exact le_max_of_le_right hleast
  · have hbits : n.log2 + 53 ≤ m.log2 + (e - f - t).toNat := by omega
    have hlarge : 2 ^ 52 ≤ m * 2 ^ (e - f - t).toNat / n := by
      rw [Nat.le_div_iff_mul_le hn]
      calc 2 ^ 52 * n ≤ 2 ^ 52 * 2 ^ (n.log2 + 1) := Nat.mul_le_mul_left _ Nat.lt_log2_self.le
        _ = 2 ^ (n.log2 + 53) := by rw [← pow_add]; congr 1; omega
        _ ≤ 2 ^ (m.log2 + (e - f - t).toNat) := Nat.pow_le_pow_right (by decide) hbits
        _ = 2 ^ m.log2 * 2 ^ (e - f - t).toNat := pow_add _ _ _
        _ ≤ m * 2 ^ (e - f - t).toNat := Nat.mul_le_mul_right _ (Nat.log2_self_le hm.ne')
    have hlog : 52 ≤ (m * 2 ^ (e - f - t).toNat / n).log2 :=
      (Nat.le_log2 (by omega)).2 hlarge
    exact le_max_of_le_left (by omega)

/-- A quotient has the quotient of the signs. -/
theorem signed_div (s t : Sign) (p q : ℚ) :
    signed (isMinus (s / t)) (p / q) = signed (isMinus s) p / signed (isMinus t) q := by
  cases s <;> cases t
  · exact (neg_div_neg_eq p q).symm
  · exact (neg_div q p).symm
  · exact (div_neg p).symm
  · rfl

/-- Dividing unpacked numbers by one that is not zero rounds their quotient. -/
theorem rounded_div {u v : UnpackedFloat} (hu : u.isFinite) (hv : v.isFinite)
    (hne : unpackedValue v ≠ 0) :
    Rounded (unpackedValue u / unpackedValue v) (packed (UnpackedFloat.div .binary64 u v)) := by
  rcases zero_or_finite hv with ⟨t, rfl⟩ | ⟨t, n, f, hn, rfl⟩
  · exact absurd (unpackedValue_zero t) hne
  · rcases zero_or_finite hu with ⟨s, rfl⟩ | ⟨s, m, e, hm, rfl⟩
    · rw [unpackedValue_zero, zero_div]
      exact rounded_zero (s / t)
    · have hle := le_roundedExponent_quotient (e := e) (f := f) hm hn
      obtain ⟨k, hk⟩ : ∃ k, k = (e - f - (divCore .binary64 m e n f).2.1).toNat := ⟨_, rfl⟩
      have hleast : (divCore .binary64 m e n f).2.1 ≤ e - f := min_le_left _ _
      have hscale : ((m <<< k : ℕ) : ℚ) / n * 2 ^ (divCore .binary64 m e n f).2.1 =
          m * 2 ^ e / (n * 2 ^ f) := by
        have hexp : (2 : ℚ) ^ (k : ℤ) * 2 ^ (divCore .binary64 m e n f).2.1 * 2 ^ f = 2 ^ e := by
          rw [← zpow_add₀ two_ne_zero, ← zpow_add₀ two_ne_zero]
          congr 1
          omega
        have hn' : (n : ℚ) ≠ 0 := by exact_mod_cast hn.ne'
        rw [eq_div_iff (by positivity), ← hexp, Nat.shiftLeft_eq]
        push_cast
        rw [zpow_natCast, div_mul_eq_mul_div, div_mul_eq_mul_div, div_eq_iff hn']
        ring
      have hvalue : unpackedValue (.finite s m e hm) / unpackedValue (.finite t n f hn) =
          signed (isMinus (s / t)) ((m <<< k : ℕ) / n * 2 ^ (divCore .binary64 m e n f).2.1) := by
        rw [hscale, signed_div]
        rfl
      have hbrackets : Brackets (.ofMantissaAndAccuracy (divCore .binary64 m e n f).1
          (divCore .binary64 m e n f).2.2) ((m <<< k : ℕ) / n) := by
        rw [hk]
        exact brackets_quotient _ hn
      rw [hvalue]
      exact ⟨(value_roundWithAccuracy _ hle).1, roundsTo_roundWithAccuracy _ hle hbrackets⟩

/-! ## Doubles -/

section
variable {x y : Float}

/-- A double that is a number is one when it is unpacked. -/
theorem isNaN_unpack (hx : ¬ x.isNaN) : x.toModel.unpack.isNaN = false :=
  Bool.eq_false_of_not_eq_true hx

/-- A double that is a number and not finite is an infinity. -/
theorem unpack_eq_infinity (hx : ¬ x.isNaN) (hfinite : ¬ x.isFinite) :
    ∃ s, x.toModel.unpack = .infinity s := by
  change ¬ x.toModel.unpack.isFinite = true at hfinite
  have hx' := isNaN_unpack hx
  cases h : x.toModel.unpack <;> simp_all [UnpackedFloat.isNaN, UnpackedFloat.isFinite]

/-- The sign of a number does not change its size. -/
theorem abs_signed (negative : Bool) {q : ℚ} (hq : 0 ≤ q) : |signed negative q| = q := by
  cases negative
  · exact abs_of_nonneg hq
  · exact (abs_neg q).trans (abs_of_nonneg hq)

/-- A finite double stands for a representable number that is not too large. -/
theorem representable_value (hx : x.isFinite) :
    Representable (value x) ∧ |value x| < Exact.beyond := by
  obtain ⟨negative, m, e, h⟩ := (isFinite_iff x).1 hx
  have hc := Exact.canonical_of_ofFloat h
  rw [value, h, Exact.value, abs_signed _ (by positivity)]
  refine ⟨?_, hc.lt_beyond⟩
  have hm : Representable (m * 2 ^ e) :=
    ⟨m, e, by rw [Nat.abs_cast]; exact_mod_cast hc.small, hc.least, by push_cast; rfl⟩
  cases negative
  · exact hm
  · exact hm.neg

/-- An infinity is a number, and stands for the first power of two that is too large. -/
theorem value_of_infinity {s : Sign} (hx : x.toModel.unpack = .infinity s) :
    ¬ x.isNaN ∧ value x = signed (isMinus s) Exact.beyond := by
  refine ⟨?_, ?_⟩
  · change ¬ x.toModel.unpack.isNaN = true
    rw [hx]
    exact nofun
  · rw [value_eq_unpackedValue, hx]
    rfl

/-- A double that is a number stands for no more than that power of two. -/
theorem abs_value_le (hx : ¬ x.isNaN) : |value x| ≤ Exact.beyond := by
  by_cases hfinite : x.isFinite
  · exact (representable_value hfinite).2.le
  · obtain ⟨s, hs⟩ := unpack_eq_infinity hx hfinite
    rw [(value_of_infinity hs).2, abs_signed _ Exact.beyond_pos.le]

/-- A number whose value is not too large is finite. -/
theorem isFinite_of_abs_value_lt (hx : ¬ x.isNaN) (h : |value x| < Exact.beyond) : x.isFinite := by
  by_contra hfinite
  obtain ⟨s, hs⟩ := unpack_eq_infinity hx hfinite
  rw [(value_of_infinity hs).2, abs_signed _ Exact.beyond_pos.le] at h
  exact lt_irrefl _ h

/-- What equals a finite double is finite. -/
theorem isFinite_of_beq (hx : x.isFinite) (h : (x == y) = true) : y.isFinite := by
  obtain ⟨⟨-, hy⟩, hvalue⟩ := beq_iff.1 h
  exact isFinite_of_abs_value_lt hy (hvalue ▸ (representable_value hx).2)

/-- The sum of two finite doubles is rounded. -/
theorem rounded_sum (hx : x.isFinite) (hy : y.isFinite) : Rounded (value x + value y) (x + y) := by
  rw [value_eq_unpackedValue, value_eq_unpackedValue]
  exact rounded_add hx hy (canonical_unpack x) (canonical_unpack y)

/-- The difference of two finite doubles is rounded. -/
theorem rounded_difference (hx : x.isFinite) (hy : y.isFinite) :
    Rounded (value x - value y) (x - y) := by
  have h : x - y = packed (UnpackedFloat.add .binary64 x.toModel.unpack y.toModel.unpack.neg) := by
    rw [← sub_eq_add_negated]
    rfl
  rw [h, sub_eq_add_neg, value_eq_unpackedValue, value_eq_unpackedValue, ← unpackedValue_neg]
  exact rounded_add hx ((isFinite_neg _).trans hy) (canonical_unpack x)
    (canonical_neg (canonical_unpack y))

/-- An infinity is packed and unpacked as itself. -/
theorem unpack_packed_infinity (s : Sign) :
    (packed (.infinity s)).toModel.unpack = .infinity s := by
  cases s <;> rfl

/-- A finite double added to an infinity leaves it as it is. -/
theorem infinity_add {s : Sign} (hx : x.toModel.unpack = .infinity s) (hy : y.isFinite) :
    (x + y).toModel.unpack = .infinity s := by
  have h : x + y = packed (.infinity s) := by
    change y.toModel.unpack.isFinite = true at hy
    change packed (UnpackedFloat.add .binary64 x.toModel.unpack y.toModel.unpack) = _
    rw [hx]
    cases hv : y.toModel.unpack <;> simp_all [UnpackedFloat.isFinite, UnpackedFloat.add]
  rw [h, unpack_packed_infinity]

/-- Infinities of one sign add up to that infinity, and those of two signs to no number. -/
theorem infinity_add_infinity {s t : Sign} (hx : x.toModel.unpack = .infinity s)
    (hy : y.toModel.unpack = .infinity t) :
    (x + y).toModel.unpack = if s == t then .infinity s else .notANumber := by
  change (packed (UnpackedFloat.add .binary64 x.toModel.unpack y.toModel.unpack)).toModel.unpack = _
  rw [hx, hy]
  cases s <;> cases t <;> rfl

/-- An infinity less a finite double is that infinity. -/
theorem infinity_sub {s : Sign} (hx : x.toModel.unpack = .infinity s) (hy : y.isFinite) :
    (x - y).toModel.unpack = .infinity s := by
  have h : x - y = packed (.infinity s) := by
    change y.toModel.unpack.isFinite = true at hy
    change packed (UnpackedFloat.sub .binary64 x.toModel.unpack y.toModel.unpack) = _
    rw [hx]
    cases hv : y.toModel.unpack <;> simp_all [UnpackedFloat.isFinite, UnpackedFloat.sub]
  rw [h, unpack_packed_infinity]

/-- Half of an infinity is that infinity. -/
theorem infinity_half {s : Sign} (hx : x.toModel.unpack = .infinity s) :
    (x / 2.0).toModel.unpack = .infinity s := by
  have h : x / 2.0 = packed (.infinity s) := by
    change packed (UnpackedFloat.div .binary64 x.toModel.unpack (2.0 : Float).toModel.unpack) = _
    rw [hx]
    cases s <;> decide
  rw [h, unpack_packed_infinity]

/-- An infinity divided by a finite double is an infinity. -/
theorem infinity_quotient {s : Sign} (hx : x.toModel.unpack = .infinity s) (hy : y.isFinite) :
    ∃ t, (x / y).toModel.unpack = .infinity t := by
  obtain ⟨t, h⟩ : ∃ t, x / y = packed (.infinity t) := by
    change y.toModel.unpack.isFinite = true at hy
    change ∃ t, packed (UnpackedFloat.div .binary64 x.toModel.unpack y.toModel.unpack) = _
    rw [hx]
    rcases zero_or_finite hy with ⟨t, hv⟩ | ⟨t, n, f, hn, hv⟩
    · rw [hv]
      exact ⟨_, rfl⟩
    · rw [hv]
      exact ⟨_, rfl⟩
  exact ⟨t, by rw [h, unpack_packed_infinity]⟩

/-! A finite result of a number and a finite double is that of a finite number. -/

/-- A number that gives a finite sum with a finite double is finite. -/
theorem isFinite_of_sum (hx : ¬ x.isNaN) (hy : y.isFinite) (h : (x + y).isFinite) :
    x.isFinite := by
  by_contra hfinite
  obtain ⟨s, hs⟩ := unpack_eq_infinity hx hfinite
  change (x + y).toModel.unpack.isFinite = true at h
  rw [infinity_add hs hy] at h
  cases h

/-- A number from which a finite double leaves a finite difference is finite. -/
theorem isFinite_of_difference (hx : ¬ x.isNaN) (hy : y.isFinite) (h : (x - y).isFinite) :
    x.isFinite := by
  by_contra hfinite
  obtain ⟨s, hs⟩ := unpack_eq_infinity hx hfinite
  change (x - y).toModel.unpack.isFinite = true at h
  rw [infinity_sub hs hy] at h
  cases h

/-- A number that gives a finite product with a finite double is finite. -/
theorem isFinite_of_product (hx : ¬ x.isNaN) (hy : y.isFinite) (h : (x * y).isFinite) :
    x.isFinite := by
  by_contra hfinite
  obtain ⟨s, hs⟩ := unpack_eq_infinity hx hfinite
  obtain ⟨u, hu⟩ : ∃ u, u = UnpackedFloat.mul .binary64 x.toModel.unpack y.toModel.unpack :=
    ⟨_, rfl⟩
  have hproduct : x * y = packed u := by
    rw [hu]
    rfl
  change y.toModel.unpack.isFinite = true at hy
  rw [hs] at hu
  rw [hproduct] at h
  rcases zero_or_finite hy with ⟨t, hv⟩ | ⟨t, n, f, hn, hv⟩
  · have hnumber : u = .notANumber := by rw [hu, hv]; rfl
    rw [hnumber] at h
    exact absurd h (by decide)
  · have hinfinity : u = .infinity (s * t) := by rw [hu, hv]; rfl
    change (packed u).toModel.unpack.isFinite = true at h
    rw [hinfinity, unpack_packed_infinity] at h
    cases h

/-- The order of two summands does not matter. -/
theorem sum_comm (x y : Float) : x + y = y + x := by
  change packed (UnpackedFloat.add .binary64 x.toModel.unpack y.toModel.unpack) =
    packed (UnpackedFloat.add .binary64 y.toModel.unpack x.toModel.unpack)
  congr 1
  cases x.toModel.unpack with
  | notANumber => cases y.toModel.unpack <;> rfl
  | infinity s =>
    cases y.toModel.unpack with
    | infinity t => cases s <;> cases t <;> rfl
    | _ => rfl
  | zero s =>
    cases y.toModel.unpack with
    | zero t => cases s <;> cases t <;> rfl
    | _ => rfl
  | finite s m e hm =>
    cases y.toModel.unpack with
    | finite t n f hn => simp only [UnpackedFloat.add, min_comm e f, Int.add_comm]
    | _ => rfl

/-- A finite double added to a number gives a number. -/
theorem not_isNaN_add (hx : ¬ x.isNaN) (hy : y.isFinite) : ¬ (x + y).isNaN := by
  by_cases hfinite : x.isFinite
  · exact (rounded_sum hfinite hy).number
  · obtain ⟨s, hs⟩ := unpack_eq_infinity hx hfinite
    exact (value_of_infinity (infinity_add hs hy)).1

/-- A number less a finite double is a number. -/
theorem not_isNaN_sub (hx : ¬ x.isNaN) (hy : y.isFinite) : ¬ (x - y).isNaN := by
  by_cases hfinite : x.isFinite
  · exact (rounded_difference hfinite hy).number
  · obtain ⟨s, hs⟩ := unpack_eq_infinity hx hfinite
    exact (value_of_infinity (infinity_sub hs hy)).1

/-- Half of what is not a number is not a number. -/
theorem isNaN_half (hx : x.isNaN) : (x / 2.0).isNaN := by
  change x.toModel.unpack.isNaN = true at hx
  have h : x / 2.0 = packed .notANumber := by
    change packed (UnpackedFloat.div .binary64 x.toModel.unpack (2.0 : Float).toModel.unpack) = _
    cases hu : x.toModel.unpack <;> simp_all [UnpackedFloat.isNaN, UnpackedFloat.div]
  rw [h]
  decide

/-- The mantissa and the exponent of two. -/
theorem ofFloat_two : Exact.ofFloat 2.0 = .finite false (2 ^ 52) (-51) := by decide

/-- The double two stands for two. -/
theorem value_two : value 2.0 = 2 := by
  rw [value, ofFloat_two, Exact.value, signed, if_neg Bool.false_ne_true, Nat.cast_pow,
    ← zpow_natCast, Nat.cast_ofNat, ← zpow_add₀ two_ne_zero]
  norm_num

/-- The double two is finite. -/
theorem isFinite_two : (2.0 : Float).isFinite := (isFinite_iff _).2 ⟨_, _, _, ofFloat_two⟩

/-- The half of a finite double is rounded. -/
theorem rounded_half (hx : x.isFinite) : Rounded (value x / 2) (x / 2.0) := by
  have hne : unpackedValue (2.0 : Float).toModel.unpack ≠ 0 := by
    rw [← value_eq_unpackedValue, value_two]
    exact two_ne_zero
  rw [← value_two, value_eq_unpackedValue, value_eq_unpackedValue]
  exact rounded_div hx isFinite_two hne

/-- Half of what stands between two doubles' doubles stands between them. -/
theorem half_between {s : Float} (hx : x.isFinite) (hy : y.isFinite) (hs : s.isFinite)
    (hlow : 2 * value x ≤ value s) (hhigh : value s ≤ 2 * value y) :
    ¬ (s / 2.0).isNaN ∧ value x ≤ value (s / 2.0) ∧ value (s / 2.0) ≤ value y := by
  obtain ⟨hnumber, hrounds⟩ := rounded_half hs
  obtain ⟨hxr, hxb⟩ := representable_value hx
  obtain ⟨hyr, hyb⟩ := representable_value hy
  exact ⟨hnumber, (hrounds _ hxr hxb.le).2 (by linarith), (hrounds _ hyr hyb.le).1 (by linarith)⟩

/-- The first power of two that is too large would be a double but for its exponent. -/
theorem representable_beyond : Representable Exact.beyond :=
  ⟨1, 1024, by decide, by decide, by rw [Exact.beyond, Int.cast_one, one_mul]⟩

/-- A number that is rounded to a finite double is not too large. -/
theorem RoundsTo.abs_lt_beyond {q v : ℚ} (h : RoundsTo q v) (hv : |v| < Exact.beyond) :
    |q| < Exact.beyond := by
  obtain ⟨hlow, hhigh⟩ := abs_lt.1 hv
  have hbound : |Exact.beyond| ≤ Exact.beyond := (abs_of_pos Exact.beyond_pos).le
  refine abs_lt.2 ⟨?_, ?_⟩
  · by_contra hle
    have := (h _ representable_beyond.neg ((abs_neg _).trans_le hbound)).1 (not_lt.1 hle)
    linarith
  · by_contra hle
    have := (h _ representable_beyond hbound).2 (not_lt.1 hle)
    linarith

/-- The sum of two doubles, if it is finite, stands between their doubles. -/
theorem sum_between (hx : x.isFinite) (hy : y.isFinite) (hsum : (x + y).isFinite)
    (hle : value x ≤ value y) :
    2 * value x ≤ value (x + y) ∧ value (x + y) ≤ 2 * value y := by
  have hrounds := (rounded_sum hx hy).roundsTo
  have hfinite := (representable_value hsum).2
  obtain ⟨hlow, hhigh⟩ := abs_lt.1 hfinite
  obtain ⟨hqlow, hqhigh⟩ := abs_lt.1 (hrounds.abs_lt_beyond hfinite)
  refine ⟨?_, ?_⟩
  · by_cases hbig : -Exact.beyond ≤ 2 * value x
    · exact (hrounds _ (representable_value hx).1.double
        (abs_le.2 ⟨hbig, by linarith⟩)).2 (by linarith)
    · linarith
  · by_cases hbig : 2 * value y ≤ Exact.beyond
    · exact (hrounds _ (representable_value hy).1.double
        (abs_le.2 ⟨by linarith, hbig⟩)).1 (by linarith)
    · linarith

/-- Half of the sum of two numbers stands between them, if it is a number and the sum is finite
where both of them are. It is not a number for infinities of both signs alone. -/
theorem half_sum_between (hx : ¬ x.isNaN) (hy : ¬ y.isNaN) (hle : value x ≤ value y)
    (hsum : x.isFinite → y.isFinite → (x + y).isFinite) :
    ((x + y) / 2.0).isNaN ∧ value x = -Exact.beyond ∧ value y = Exact.beyond ∨
      ¬ ((x + y) / 2.0).isNaN ∧ value x ≤ value ((x + y) / 2.0) ∧
        value ((x + y) / 2.0) ≤ value y := by
  have halved : ∀ {s : Sign}, (x + y).toModel.unpack = .infinity s →
      ¬ ((x + y) / 2.0).isNaN ∧ value ((x + y) / 2.0) = signed (isMinus s) Exact.beyond :=
    fun h => value_of_infinity (infinity_half h)
  have hb := Exact.beyond_pos
  by_cases hxf : x.isFinite
  · by_cases hyf : y.isFinite
    · obtain ⟨hlow, hhigh⟩ := sum_between hxf hyf (hsum hxf hyf) hle
      exact .inr (half_between hxf hyf (hsum hxf hyf) hlow hhigh)
    · obtain ⟨t, ht⟩ := unpack_eq_infinity hy hyf
      obtain ⟨hnumber, hvalue⟩ := halved (sum_comm x y ▸ infinity_add ht hxf)
      rw [(value_of_infinity ht).2] at hle ⊢
      exact .inr ⟨hnumber, hvalue ▸ hle, hvalue.le⟩
  · obtain ⟨s, hs⟩ := unpack_eq_infinity hx hxf
    by_cases hyf : y.isFinite
    · obtain ⟨hnumber, hvalue⟩ := halved (infinity_add hs hyf)
      rw [(value_of_infinity hs).2] at hle ⊢
      exact .inr ⟨hnumber, hvalue.ge, hvalue ▸ hle⟩
    · obtain ⟨t, ht⟩ := unpack_eq_infinity hy hyf
      have hadd := infinity_add_infinity hs ht
      rw [(value_of_infinity hs).2, (value_of_infinity ht).2] at hle ⊢
      cases s with
      | negative =>
        cases t with
        | negative =>
          obtain ⟨hnumber, hvalue⟩ := halved hadd
          exact .inr ⟨hnumber, hvalue.ge, hvalue.le⟩
        | positive =>
          refine .inl ⟨isNaN_half ?_, rfl, rfl⟩
          change (x + y).toModel.unpack.isNaN = true
          rw [hadd]
          rfl
      | positive =>
        cases t with
        | negative => exact absurd hle (by change ¬ Exact.beyond ≤ -Exact.beyond; linarith)
        | positive =>
          obtain ⟨hnumber, hvalue⟩ := halved hadd
          exact .inr ⟨hnumber, hvalue.ge, hvalue.le⟩

end

/-! ## The smaller and the larger of two doubles -/

section
variable {x y : Float}

/-- Of two numbers the first is the smaller one if it is below the second, else the second is. -/
theorem lesser_eq (hx : ¬ x.isNaN) (hy : ¬ y.isNaN) : lesser x y = if x < y then x else y := by
  rw [lesser, Bool.eq_false_of_not_eq_true hx, Bool.false_or]
  by_cases h : x < y
  · have hle : ¬ y ≤ x := fun hle =>
      absurd ((lt_iff_value hx hy).1 h) (not_lt.2 ((le_iff_value hy hx).1 hle))
    simp [h, hle]
  · have hle : y ≤ x := (le_iff_value hy hx).2 (not_lt.1 (mt (lt_iff_value hx hy).2 h))
    simp [h, hle]

/-- Of two numbers the first is the larger one if it is above the second, else the second is. -/
theorem greater_eq (hx : ¬ x.isNaN) (hy : ¬ y.isNaN) : greater x y = if y < x then x else y := by
  rw [greater, Bool.eq_false_of_not_eq_true hx, Bool.false_or]
  by_cases h : y < x
  · have hle : ¬ x ≤ y := fun hle =>
      absurd ((lt_iff_value hy hx).1 h) (not_lt.2 ((le_iff_value hx hy).1 hle))
    simp [h, hle]
  · have hle : x ≤ y := (le_iff_value hx hy).2 (not_lt.1 (mt (lt_iff_value hy hx).2 h))
    simp [h, hle]

/-- Of what is not a number and a second double the second one is the smaller one. -/
theorem lesser_of_isNaN (hx : x.isNaN) : lesser x y = y := by
  rw [lesser, hx, Bool.true_or, if_pos rfl]

/-- It is the larger one too. -/
theorem greater_of_isNaN (hx : x.isNaN) : greater x y = y := by
  rw [greater, hx, Bool.true_or, if_pos rfl]

/-- A number is at most itself. -/
theorem le_refl_of_number (hx : ¬ x.isNaN) : x ≤ x :=
  (le_iff_value hx hx).2 le_rfl

/-- The smaller of two doubles is at most the second, which has to be a number. -/
theorem lesser_le_right (hy : ¬ y.isNaN) : lesser x y ≤ y := by
  by_cases hx : x.isNaN
  · rw [lesser_of_isNaN hx]
    exact le_refl_of_number hy
  · rw [lesser_eq hx hy]
    split
    · next h => exact (le_iff_value hx hy).2 ((lt_iff_value hx hy).1 h).le
    · exact le_refl_of_number hy

/-- The smaller of two numbers is at most the first. -/
theorem lesser_le_left (hx : ¬ x.isNaN) (hy : ¬ y.isNaN) : lesser x y ≤ x := by
  rw [lesser_eq hx hy]
  split
  · exact le_refl_of_number hx
  · next h =>
    exact (le_iff_value hy hx).2 (not_lt.1 (mt (lt_iff_value hx hy).2 h))

/-- The larger of two doubles is at least the second, which has to be a number. -/
theorem right_le_greater (hy : ¬ y.isNaN) : y ≤ greater x y := by
  by_cases hx : x.isNaN
  · rw [greater_of_isNaN hx]
    exact le_refl_of_number hy
  · rw [greater_eq hx hy]
    split
    · next h => exact (le_iff_value hy hx).2 ((lt_iff_value hy hx).1 h).le
    · exact le_refl_of_number hy

/-- The larger of two numbers is at least the first. -/
theorem left_le_greater (hx : ¬ x.isNaN) (hy : ¬ y.isNaN) : x ≤ greater x y := by
  rw [greater_eq hx hy]
  split
  · exact le_refl_of_number hx
  · next h =>
    exact (le_iff_value hx hy).2 (not_lt.1 (mt (lt_iff_value hy hx).2 h))

end

end TouchOff
