import TouchOff.Proofs.Number.Value

/-!
# Rounding

What rounding does to a number: no double lies between the number and what it is rounded to
(`RoundsTo`). This is all that the order of computed positions rests on, whichever way a half is
rounded. It is shown of `roundWithAccuracy`, in which every operation on doubles ends
(`value_roundWithAccuracy`, `roundsTo_roundWithAccuracy`).

A mantissa that loses bits keeps two of them, from which can be told whether it is still all of the
number (`Brackets`). Cutting off one bit keeps that (`Brackets.shiftRightOne`), and rounding a
mantissa that brackets a number passes no double (`Brackets.faithful`).
-/

open Float.Model Float.Model.UnpackedFloat

namespace TouchOff

/-! ## Numbers that need no rounding -/

/-- A rational that is a double, or would be one if its exponent were not too large. -/
def Representable (q : ℚ) : Prop :=
  ∃ (m : ℤ) (e : ℤ), |m| < 2 ^ 53 ∧ -1074 ≤ e ∧ q = m * 2 ^ e

/-- `v` is what a rational `q` is rounded to: no double lies between the two. -/
def RoundsTo (q v : ℚ) : Prop :=
  ∀ g, Representable g → |g| ≤ Exact.beyond → (q ≤ g → v ≤ g) ∧ (g ≤ q → g ≤ v)

/-- The negative of a representable number is representable. -/
theorem Representable.neg {q : ℚ} (h : Representable q) : Representable (-q) := by
  obtain ⟨m, e, hm, he, rfl⟩ := h
  exact ⟨-m, e, by rwa [abs_neg], he, by push_cast; ring⟩

/-- Twice a representable number is representable. -/
theorem Representable.double {q : ℚ} (h : Representable q) : Representable (2 * q) := by
  obtain ⟨m, e, hm, he, rfl⟩ := h
  exact ⟨m, e + 1, hm, by omega, by rw [zpow_add_one₀ two_ne_zero]; ring⟩

/-- The negative of a number is rounded to the negative. -/
theorem RoundsTo.neg {q v : ℚ} (h : RoundsTo q v) : RoundsTo (-q) (-v) := by
  intro g hg hb
  obtain ⟨h1, h2⟩ := h (-g) hg.neg (by rwa [abs_neg])
  exact ⟨fun hqg => by linarith [h2 (by linarith)], fun hgq => by linarith [h1 (by linarith)]⟩

/-- A sign goes through rounding. -/
theorem RoundsTo.signed {q v : ℚ} (h : RoundsTo q v) (negative : Bool) :
    RoundsTo (signed negative q) (signed negative v) := by
  cases negative
  · exact h
  · exact h.neg

/-- A representable number that is not too small is a multiple of a given power of two. -/
theorem Representable.eq_mul {g : ℚ} (h : Representable g) {t : ℤ}
    (ht : t = -1074 ∨ (2 : ℚ) ^ (t + 52) ≤ |g|) : ∃ j : ℤ, g = j * 2 ^ t := by
  obtain ⟨m, e, hm, he, rfl⟩ := h
  by_cases hte : t ≤ e
  · obtain ⟨k, hk⟩ := Int.le.dest hte
    refine ⟨m * 2 ^ k, ?_⟩
    rw [← hk, zpow_add₀ two_ne_zero, zpow_natCast]
    push_cast
    ring
  · have hbig := ht.resolve_left (by omega)
    have hm' : |(m : ℚ)| < 2 ^ (53 : ℤ) := by exact_mod_cast hm
    have hlt : |(m : ℚ) * 2 ^ e| < 2 ^ (t + 52) := by
      calc |(m : ℚ) * 2 ^ e| = |(m : ℚ)| * 2 ^ e := by
            rw [abs_mul, abs_of_pos (by positivity : (0 : ℚ) < 2 ^ e)]
        _ < 2 ^ (53 : ℤ) * 2 ^ e := by gcongr
        _ ≤ 2 ^ (53 : ℤ) * 2 ^ (t - 1) := by
          gcongr
          · norm_num
          · omega
        _ = 2 ^ (t + 52) := by rw [← zpow_add₀ two_ne_zero]; ring_nf
    linarith

/-! ## Cutting a mantissa -/

/-- The extended mantissa is the whole part of `q`, and knows whether that is all of `q`. -/
structure Brackets (em : ExtendedMantissa) (q : ℚ) : Prop where
  le : em.mantissa ≤ q
  lt : q < em.mantissa + 1
  whole_iff : em.roundBit = false ∧ em.stickyBit = false ↔ q = em.mantissa

/-- Cutting off one bit halves the number that is bracketed. -/
theorem Brackets.shiftRightOne {em : ExtendedMantissa} {q : ℚ} (h : Brackets em q) :
    Brackets em.shiftRightOne (q / 2) := by
  obtain ⟨m, r, s⟩ := em
  obtain ⟨hle, hlt, hwhole⟩ := h
  simp only at hle hlt hwhole
  have hdiv : ((m % 2 : ℕ) : ℚ) + 2 * (m / 2 : ℕ) = m := by exact_mod_cast Nat.mod_add_div m 2
  obtain hmod | hmod := Nat.mod_two_eq_zero_or_one m
  · rw [hmod, Nat.cast_zero] at hdiv
    constructor <;> simp only [ExtendedMantissa.shiftRightOne]
    · linarith
    · linarith
    · rw [hmod, bne_self_eq_false, Bool.or_eq_false_iff, hwhole, eq_self_iff_true, true_and]
      constructor <;> intro h <;> linarith
  · rw [hmod, Nat.cast_one] at hdiv
    constructor <;> simp only [ExtendedMantissa.shiftRightOne]
    · linarith
    · linarith
    · refine iff_of_false (fun h => ?_) fun h => by linarith
      rw [hmod] at h
      exact absurd h.1 (by decide)

/-- Cutting off bits divides the number that is bracketed. -/
theorem Brackets.shiftRight {em : ExtendedMantissa} {q : ℚ} (h : Brackets em q) (n : Nat) :
    Brackets (em >>> n) (q / 2 ^ n) := by
  change Brackets (n.repeat ExtendedMantissa.shiftRightOne em) _
  induction n with
  | zero => simpa [Nat.repeat] using h
  | succ n ih =>
    rw [Nat.repeat, pow_succ, ← div_div]
    exact ih.shiftRightOne

/-- Cutting off bits divides the mantissa and drops the rest. -/
theorem mantissa_shiftRight (em : ExtendedMantissa) (n : Nat) :
    (em >>> n).mantissa = em.mantissa / 2 ^ n := by
  change (n.repeat ExtendedMantissa.shiftRightOne em).mantissa = _
  induction n with
  | zero => simp [Nat.repeat]
  | succ n ih =>
    rw [Nat.repeat, pow_succ, ← Nat.div_div_eq_div_mul, ← ih]
    rfl

/-- Rounding goes up by one or not at all. -/
theorem roundedMantissa_bounds (em : ExtendedMantissa) :
    em.mantissa ≤ em.roundedMantissa ∧ em.roundedMantissa ≤ em.mantissa + 1 := by
  obtain ⟨m, r, s⟩ := em
  cases r <;> cases s <;>
    simp only [ExtendedMantissa.roundedMantissa, ExtendedMantissa.accuracy,
      Accuracy.roundToNearestEven] <;> omega

/-- A mantissa that nothing was cut off stays as it is. -/
theorem roundedMantissa_of_whole {em : ExtendedMantissa}
    (h : em.roundBit = false ∧ em.stickyBit = false) : em.roundedMantissa = em.mantissa := by
  obtain ⟨m, r, s⟩ := em
  obtain ⟨rfl, rfl⟩ := h
  rfl

/-- Rounding to a whole number of units `2 ^ t` passes no representable number, where the unit is
the least one or the whole part has all its bits. -/
theorem Brackets.faithful {em : ExtendedMantissa} {q : ℚ} (h : Brackets em q) {t : ℤ}
    (ht : t = -1074 ∨ 2 ^ 52 ≤ em.mantissa) {g : ℚ} (hg : Representable g) :
    (q * 2 ^ t ≤ g → em.roundedMantissa * 2 ^ t ≤ g) ∧
      (g ≤ q * 2 ^ t → g ≤ em.roundedMantissa * 2 ^ t) := by
  have hp : (0 : ℚ) < 2 ^ t := by positivity
  obtain ⟨hlo, hhi⟩ := roundedMantissa_bounds em
  have hlo' : (em.mantissa : ℚ) ≤ em.roundedMantissa := by exact_mod_cast hlo
  have hhi' : (em.roundedMantissa : ℚ) ≤ em.mantissa + 1 := by exact_mod_cast hhi
  have hm : (em.mantissa : ℚ) * 2 ^ t ≤ q * 2 ^ t := by gcongr; exact h.le
  have hr : (em.mantissa : ℚ) * 2 ^ t ≤ em.roundedMantissa * 2 ^ t := by gcongr
  by_cases hgrid : t = -1074 ∨ (2 : ℚ) ^ (t + 52) ≤ |g|
  · obtain ⟨j, rfl⟩ := hg.eq_mul hgrid
    refine ⟨fun hq => ?_, fun hq => ?_⟩
    · have hqj : q ≤ j := le_of_mul_le_mul_right hq hp
      gcongr
      by_cases hw : em.roundBit = false ∧ em.stickyBit = false
      · rw [roundedMantissa_of_whole hw, ← h.whole_iff.1 hw]
        exact hqj
      · have hlt : (em.mantissa : ℚ) < q := lt_of_le_of_ne h.le fun he => hw (h.whole_iff.2 he.symm)
        have : (em.mantissa : ℤ) + 1 ≤ j := by exact_mod_cast hlt.trans_le hqj
        have : (em.mantissa : ℚ) + 1 ≤ j := by exact_mod_cast this
        linarith
    · have hjq : (j : ℚ) ≤ q := le_of_mul_le_mul_right hq hp
      have : j < (em.mantissa : ℤ) + 1 := by exact_mod_cast hjq.trans_lt h.lt
      have : (j : ℚ) ≤ em.mantissa := by exact_mod_cast Int.lt_add_one_iff.1 this
      gcongr
      linarith
  · have hg' := not_le.1 fun hle => hgrid (.inr hle)
    have hlarge : (2 : ℚ) ^ (t + 52) ≤ em.mantissa * 2 ^ t := by
      have : (2 : ℚ) ^ (52 : ℤ) ≤ em.mantissa := by
        exact_mod_cast ht.resolve_left fun h => hgrid (.inl h)
      rw [add_comm, zpow_add₀ two_ne_zero]
      gcongr
    obtain ⟨-, hlt⟩ := abs_lt.1 hg'
    exact ⟨fun hq => by linarith, fun _ => by linarith⟩


/-! ## Packing -/

/-- The sign that was packed is unpacked. -/
@[simp] theorem unpackSign_packComponents (s : Sign) (e : BitVec 11) (m : BitVec 52) :
    @unpackSign .binary64 (packComponents .binary64 s e m) = s.toBitVec := by
  apply BitVec.eq_of_toNat_eq
  rw [sign_toNat]
  simp only [packComponents, BitVec.toNat_append]
  rw [← Nat.shiftLeft_add_eq_or_of_lt m.isLt, ← Nat.shiftLeft_add_eq_or_of_lt e.isLt]
  have he := e.isLt
  have hm := m.isLt
  simp only [Nat.shiftLeft_eq]
  omega

@[simp] theorem ofBitVec_toBitVec (s : Sign) : Sign.ofBitVec s.toBitVec = s := by
  cases s <;> rfl

/-- What a sign, an exponent and a mantissa that were packed stand for. -/
theorem unpack_packComponents (s : Sign) (e : BitVec 11) (m : BitVec 52) :
    Exact.ofUnpacked (UnpackedFloat.unpack .binary64 (packComponents .binary64 s e m)) =
      if e = -1#11 then if m = 0#52 then .infinite (isMinus s) else .nan
      else if e = 0#11 then .finite (isMinus s) m.toNat (-1074)
      else .finite (isMinus s) (2 ^ 52 + m.toNat) (e.toNat - 1075) := by
  unfold UnpackedFloat.unpack
  simp only [unpackExponent_packComponents, unpackMantissa_packComponents,
    unpackSign_packComponents, ofBitVec_toBitVec]
  split
  · split <;> rfl
  · split
    · next he =>
      split
      · next hm => simp [Exact.ofUnpacked, hm]
      · simp [Exact.ofUnpacked, he, Format.exponentBias]
    · simp [Exact.ofUnpacked, append_toNat, Format.exponentBias]

/-- What a packed normal number stands for. -/
theorem unpack_normal (s : Sign) {b m : Nat} (hpos : 0 < b) (hlt : b < 2047) (hn : 2 ^ 52 ≤ m)
    (hm : m < 2 ^ 53) :
    Exact.ofUnpacked (UnpackedFloat.unpack .binary64
      (packComponents .binary64 s (BitVec.ofNat 11 b) (BitVec.ofNat 52 m))) =
      .finite (isMinus s) m (b - 1075) := by
  have hb : (BitVec.ofNat 11 b).toNat = b := by
    rw [BitVec.toNat_ofNat, Nat.mod_eq_of_lt (by omega)]
  have h1 : BitVec.ofNat 11 b ≠ -1#11 := by
    intro h
    rw [h] at hb
    change 2047 = b at hb
    omega
  have h0 : BitVec.ofNat 11 b ≠ 0#11 := by
    intro h
    rw [h] at hb
    change 0 = b at hb
    omega
  rw [unpack_packComponents, if_neg h1, if_neg h0, hb, BitVec.toNat_ofNat]
  congr 1
  omega

/-- The double of an unpacked number. -/
def packed (u : UnpackedFloat) : Float := .ofModel (.pack u)

/-- The exact form of a packed number is read off the packed form. -/
theorem ofFloat_packed (u : UnpackedFloat) : Exact.ofFloat (packed u) =
    Exact.ofUnpacked (UnpackedFloat.unpack .binary64 (UnpackedFloat.pack .binary64 u)) :=
  Exact.ofFloat_eq_ofUnpacked _

/-- A number whose exponent is too large is packed as an infinity. -/
theorem ofFloat_packed_overflow {s : Sign} {m : Nat} {e : Int} (hm : 0 < m) (he : 972 ≤ e) :
    Exact.ofFloat (packed (.finite s m e hm)) = .infinite (isMinus s) := by
  have hlarge : 2 ^ Format.binary64.exponentBits ≤ (e + Format.binary64.exponentBias +
      Format.binary64.mantissaBitsWithoutImplicit).toNat + 1 := by
    change 2 ^ 11 ≤ (e + (1023 : Nat) + (52 : Nat)).toNat + 1
    omega
  rw [ofFloat_packed, UnpackedFloat.pack, if_pos hlarge, packedInfinity, unpack_packComponents,
    if_pos rfl]
  rfl

/-- A number with the mantissa and the exponent of a double is packed as it is. -/
theorem ofFloat_packed_finite {s : Sign} {m : Nat} {e : Int} (hm : 0 < m)
    (h : Exact.Canonical m e) :
    Exact.ofFloat (packed (.finite s m e hm)) = .finite (isMinus s) m e := by
  obtain ⟨hsmall, hleast, hgreatest, hleading⟩ := h
  have hsmaller : ¬ 2 ^ Format.binary64.exponentBits ≤ (e + Format.binary64.exponentBias +
      Format.binary64.mantissaBitsWithoutImplicit).toNat + 1 := by
    change ¬ 2 ^ 11 ≤ (e + (1023 : Nat) + (52 : Nat)).toNat + 1
    omega
  rw [ofFloat_packed, UnpackedFloat.pack, if_neg hsmaller]
  by_cases hn : 2 ^ 52 ≤ m
  · have hlog : m.log2 + 1 = Format.binary64.mantissaBits := by
      rw [(Nat.log2_eq_iff hm.ne').2 ⟨hn, hsmall⟩]
      rfl
    rw [if_pos hlog]
    have hb : (e + (1023 : Nat) + (52 : Nat)).toNat = (e + 1075).toNat := by
      omega
    refine (unpack_normal s (b := (e + (1023 : Nat) + (52 : Nat)).toNat) ?_ ?_ hn hsmall).trans ?_
    · omega
    · omega
    · congr 1
      omega
  · have hlog : ¬ m.log2 + 1 = Format.binary64.mantissaBits := by
      have : m.log2 < 52 := (Nat.log2_lt hm.ne').2 (by omega)
      change ¬ m.log2 + 1 = 53
      omega
    rw [if_neg hlog]
    have h0 : (0#11 : BitVec 11) ≠ -1#11 := by decide
    rw [unpack_packComponents, if_neg h0, if_pos rfl]
    simp
    omega


/-! ## Rounding -/

/-- The exponent that a mantissa is shifted to: the number keeps 53 bits unless it is too small. -/
theorem targetExponent_eq (m : Nat) (e : Int) :
    Format.binary64.targetExponent (totalExponent m e) = max (m.log2 + e - 52) (-1074) := by
  simp only [Format.targetExponent, totalExponent, Format.mantissaBits, Format.minExponent]
  norm_num
  omega

/-- Shifting a mantissa that has no more than 53 bits does nothing. -/
theorem shiftToTargetExponent_of_lt {m : Nat} {e : Int} (hm : m < 2 ^ 53) (he : -1074 ≤ e) :
    shiftToTargetExponent .binary64 m e .exact = (⟨m, false, false⟩, e) := by
  have hlog : m.log2 ≤ 52 := by
    rcases Nat.eq_zero_or_pos m with rfl | h
    · decide
    · exact Nat.le_of_lt_succ ((Nat.log2_lt h.ne').2 hm)
  have hshift : (max ((m.log2 : ℤ) + e - 52) (-1074) - e).toNat = 0 := by omega
  simp only [shiftToTargetExponent, targetExponent_eq, shiftToExponent, hshift, Nat.cast_zero,
    add_zero]
  rfl

/-- A mantissa that rounding has carried over to a bit more is shifted back by that bit. -/
theorem shiftToTargetExponent_carry {e : Int} (he : -1074 ≤ e) :
    shiftToTargetExponent .binary64 (2 ^ 53) e .exact = (⟨2 ^ 52, false, false⟩, e + 1) := by
  have hshift : (max (((2 ^ 53 : Nat).log2 : ℤ) + e - 52) (-1074) - e).toNat = 1 := by
    rw [Nat.log2_two_pow]
    omega
  simp only [shiftToTargetExponent, targetExponent_eq, shiftToExponent, hshift]
  rfl


/-- The exponent that a mantissa is rounded to. -/
def roundedExponent (m : Nat) (e : Int) : Int := max (m.log2 + e - 52) (-1074)

/-- The mantissa, cut to the bits that are kept. -/
def cutMantissa (m : Nat) (e : Int) (a : Accuracy) : ExtendedMantissa :=
  ExtendedMantissa.ofMantissaAndAccuracy m a >>> (roundedExponent m e - e).toNat

/-- A mantissa that is to be cut is the given one. -/
theorem mantissa_ofMantissaAndAccuracy (m : Nat) (a : Accuracy) :
    (ExtendedMantissa.ofMantissaAndAccuracy m a).mantissa = m := by
  cases a with
  | exact => rfl
  | inexact o => cases o <;> rfl

section
variable {m : Nat} {e : Int} {a : Accuracy}

/-- No more than 53 bits are kept. -/
theorem cutMantissa_lt (he : e ≤ roundedExponent m e) :
    (cutMantissa m e a).mantissa < 2 ^ 53 := by
  have hm : m < 2 ^ (m.log2 + 1) := Nat.lt_log2_self
  have hn : m.log2 + 1 ≤ 53 + (roundedExponent m e - e).toNat := by
    have : (m.log2 : ℤ) + e - 52 ≤ roundedExponent m e := le_max_left _ _
    omega
  rw [cutMantissa, mantissa_shiftRight, mantissa_ofMantissaAndAccuracy]
  refine Nat.div_lt_of_lt_mul (hm.trans_le ?_)
  rw [mul_comm, ← pow_add]
  exact Nat.pow_le_pow_right (by decide) hn

/-- All 53 bits are kept unless the number is too small. -/
theorem cutMantissa_full (he : e ≤ roundedExponent m e) :
    roundedExponent m e = -1074 ∨ 2 ^ 52 ≤ (cutMantissa m e a).mantissa := by
  rw [or_iff_not_imp_left]
  intro hne
  have ht : roundedExponent m e = m.log2 + e - 52 := by
    simp only [roundedExponent] at hne ⊢
    omega
  have hn : 52 + (roundedExponent m e - e).toNat = m.log2 := by omega
  have hm : 2 ^ m.log2 ≤ m := Nat.log2_self_le (by rintro rfl; simp at hn)
  rw [cutMantissa, mantissa_shiftRight, mantissa_ofMantissaAndAccuracy]
  rw [Nat.le_div_iff_mul_le (by positivity), ← pow_add, hn]
  exact hm

/-- What rounding gives: the cut mantissa, rounded, and half of it if that carries to a bit more. -/
theorem roundWithAccuracy_eq (s : Sign) (he : e ≤ roundedExponent m e) :
    roundWithAccuracy .binary64 s m e a =
      if h : (cutMantissa m e a).roundedMantissa = 0 then .zero s
      else if (cutMantissa m e a).roundedMantissa < 2 ^ 53 then
        .finite s (cutMantissa m e a).roundedMantissa (roundedExponent m e) (Nat.pos_of_ne_zero h)
      else .finite s (2 ^ 52) (roundedExponent m e + 1) (by decide) := by
  have hfirst : shiftToTargetExponent .binary64 m e a =
      (cutMantissa m e a, roundedExponent m e) := by
    simp only [shiftToTargetExponent, targetExponent_eq, shiftToExponent]
    refine Prod.ext rfl ?_
    change e + ((roundedExponent m e - e).toNat : ℤ) = roundedExponent m e
    omega
  have hleast : -1074 ≤ roundedExponent m e := le_max_right _ _
  have hround := (roundedMantissa_bounds (cutMantissa m e a)).2
  have hlt := cutMantissa_lt (a := a) he
  rw [roundWithAccuracy, hfirst]
  by_cases hcarry : (cutMantissa m e a).roundedMantissa < 2 ^ 53
  · simp only [shiftToTargetExponent_of_lt hcarry hleast, hcarry, if_true]
  · have h53 : (cutMantissa m e a).roundedMantissa = 2 ^ 53 := by omega
    simp only [h53, shiftToTargetExponent_carry hleast]
    rfl

/-- A packed zero is a number and stands for zero. -/
theorem value_zero (s : Sign) : ¬ (packed (.zero s)).isNaN ∧ value (packed (.zero s)) = 0 := by
  have h : Exact.ofFloat (packed (.zero s)) = .finite (isMinus s) 0 (-1074) := by
    rw [ofFloat_packed]
    cases s <;> decide
  rw [isNaN_iff, value, h]
  cases s <;> simp [Exact.value, signed]

/-- What a packed number stands for, where its exponent may be too large. -/
theorem value_packed (s : Sign) {m : Nat} {e : Int} (hm : 0 < m) (hsmall : m < 2 ^ 53)
    (hleast : -1074 ≤ e) (hleading : e = -1074 ∨ 2 ^ 52 ≤ m) :
    ¬ (packed (.finite s m e hm)).isNaN ∧
      value (packed (.finite s m e hm)) = signed (isMinus s) (min (m * 2 ^ e) Exact.beyond) := by
  by_cases he : e ≤ 971
  · have hc : Exact.Canonical m e := ⟨hsmall, hleast, he, hleading⟩
    rw [isNaN_iff, value, ofFloat_packed_finite hm hc, min_eq_left hc.lt_beyond.le]
    exact ⟨Exact.noConfusion, rfl⟩
  · have hlarge : Exact.beyond ≤ m * 2 ^ e := by
      have h52 : (2 : ℚ) ^ (52 : ℤ) ≤ m := by exact_mod_cast hleading.resolve_left (by omega)
      calc Exact.beyond = 2 ^ (52 : ℤ) * 2 ^ (972 : ℤ) := by
            rw [← zpow_add₀ two_ne_zero, Exact.beyond, show (52 : ℤ) + 972 = 1024 by decide]
        _ ≤ 2 ^ (52 : ℤ) * 2 ^ e := by
            gcongr
            · norm_num
            · omega
        _ ≤ m * 2 ^ e := by gcongr
    rw [isNaN_iff, value, ofFloat_packed_overflow hm (by omega), min_eq_right hlarge]
    exact ⟨Exact.noConfusion, rfl⟩

/-- What rounding gives stands for the rounded mantissa in its place, and for an infinity where that
is too large. -/
theorem value_roundWithAccuracy (s : Sign) (he : e ≤ roundedExponent m e) :
    ¬ (packed (roundWithAccuracy .binary64 s m e a)).isNaN ∧
      value (packed (roundWithAccuracy .binary64 s m e a)) = signed (isMinus s)
        (min ((cutMantissa m e a).roundedMantissa * 2 ^ roundedExponent m e) Exact.beyond) := by
  have hle := (roundedMantissa_bounds (cutMantissa m e a)).1
  have hup := (roundedMantissa_bounds (cutMantissa m e a)).2
  have hlt := cutMantissa_lt (a := a) he
  have hfull := cutMantissa_full (a := a) he
  have hleast : -1074 ≤ roundedExponent m e := le_max_right _ _
  rw [roundWithAccuracy_eq s he]
  split
  · next hzero =>
    refine ⟨(value_zero s).1, (value_zero s).2.trans ?_⟩
    rw [hzero, Nat.cast_zero, zero_mul, min_eq_left Exact.beyond_pos.le]
    cases s <;> simp [isMinus, signed]
  · next hpos =>
    split
    · next hsmall =>
      exact value_packed s _ hsmall hleast (hfull.imp_right fun h => h.trans hle)
    · next hcarry =>
      have h53 : (cutMantissa m e a).roundedMantissa = 2 ^ 53 := by omega
      have hvalue := value_packed s (m := 2 ^ 52) (e := roundedExponent m e + 1) (by decide)
        (by decide) (by omega) (.inr le_rfl)
      refine ⟨hvalue.1, hvalue.2.trans ?_⟩
      rw [h53, zpow_add_one₀ two_ne_zero]
      congr 2
      push_cast
      ring

/-- Rounding passes no double. -/
theorem roundsTo_roundWithAccuracy (s : Sign) (he : e ≤ roundedExponent m e) {q : ℚ}
    (hq : Brackets (.ofMantissaAndAccuracy m a) q) :
    RoundsTo (signed (isMinus s) (q * 2 ^ e))
      (value (packed (roundWithAccuracy .binary64 s m e a))) := by
  rw [(value_roundWithAccuracy s he).2]
  refine RoundsTo.signed ?_ _
  intro g hg hbeyond
  have hcut := hq.shiftRight (roundedExponent m e - e).toNat
  have hscale : q / 2 ^ (roundedExponent m e - e).toNat * 2 ^ roundedExponent m e = q * 2 ^ e := by
    rw [div_mul_eq_mul_div, div_eq_iff (by positivity), mul_assoc, ← zpow_natCast,
      ← zpow_add₀ two_ne_zero]
    congr 2
    omega
  obtain ⟨hup, hdown⟩ := hcut.faithful (cutMantissa_full he) hg
  rw [hscale] at hup hdown
  exact ⟨fun h => min_le_of_left_le (hup h), fun h => le_min (hdown h) (le_of_abs_le hbeyond)⟩

/-- A mantissa that is known exactly is all of its value. -/
theorem brackets_exact (m : Nat) : Brackets (.ofMantissaAndAccuracy m .exact) m :=
  ⟨le_rfl, lt_add_one _, iff_of_true ⟨rfl, rfl⟩ rfl⟩

end

/-- What a double stands for that a number was rounded to. -/
structure Rounded (q : ℚ) (x : Float) : Prop where
  number : ¬ x.isNaN
  roundsTo : RoundsTo q (value x)

/-- Rounding a mantissa that may have too many or too few bits. -/
theorem rounded_round (s : Sign) {m : Nat} (hm : 0 < m) (e : Int) :
    Rounded (signed (isMinus s) (m * 2 ^ e)) (packed (UnpackedFloat.round .binary64 s m e)) := by
  obtain ⟨n, hn⟩ : ∃ n : Nat, n = (e - roundedExponent m e).toNat := ⟨_, rfl⟩
  have hround : UnpackedFloat.round .binary64 s m e =
      roundWithAccuracy .binary64 s (m * 2 ^ n) (e - n) .exact := by
    rw [UnpackedFloat.round, targetExponent_eq, decreaseExponent, Nat.shiftLeft_eq, hn]
    rfl
  have hlog : (m * 2 ^ n).log2 = m.log2 + n := by
    rw [Nat.log2_eq_iff (by positivity), pow_add, ← Nat.add_right_comm, pow_add (2 : Nat) _ n]
    exact ⟨Nat.mul_le_mul_right _ (Nat.log2_self_le hm.ne'),
      Nat.mul_lt_mul_of_pos_right Nat.lt_log2_self (by positivity)⟩
  have he : e - n ≤ roundedExponent (m * 2 ^ n) (e - n) := by
    rw [roundedExponent, hlog]
    rw [roundedExponent] at hn
    push_cast
    omega
  have hscale : ((m * 2 ^ n : ℕ) : ℚ) * 2 ^ (e - n) = m * 2 ^ e := by
    push_cast
    rw [mul_assoc, ← zpow_natCast, ← zpow_add₀ two_ne_zero]
    congr 2
    omega
  rw [hround, ← hscale]
  exact ⟨(value_roundWithAccuracy s he).1, roundsTo_roundWithAccuracy s he (brackets_exact _)⟩

/-- Zero is rounded to itself. -/
theorem RoundsTo.zero : RoundsTo 0 0 := fun _ _ _ => ⟨id, id⟩

/-- A packed zero is zero, rounded. -/
theorem rounded_zero (s : Sign) : Rounded 0 (packed (.zero s)) :=
  ⟨(value_zero s).1, (value_zero s).2 ▸ RoundsTo.zero⟩

/-- Rounding a mantissa that has a sign. -/
theorem rounded_normalize (m : Int) (e : Int) (s : Sign) :
    Rounded (m * 2 ^ e) (packed (normalize .binary64 m e s)) := by
  rw [UnpackedFloat.normalize]
  split
  · next h =>
    have hneg : m < 0 := Int.compare_eq_lt.1 h
    have hcast : (((-m).toNat : ℕ) : ℚ) = -m := by
      exact_mod_cast Int.toNat_of_nonneg (by omega : 0 ≤ -m)
    have := rounded_round .negative (m := (-m).toNat) (by omega) e
    rwa [hcast, isMinus, signed, if_pos rfl, neg_mul, neg_neg] at this
  · next h =>
    have hzero : m = 0 := Int.compare_eq_eq.1 h
    rw [hzero, Int.cast_zero, zero_mul]
    exact rounded_zero s
  · next h =>
    have hpos : 0 < m := Int.compare_eq_gt.1 h
    have hcast : ((m.toNat : ℕ) : ℚ) = m := by
      exact_mod_cast Int.toNat_of_nonneg hpos.le
    have := rounded_round .positive (m := m.toNat) (by omega) e
    rwa [hcast, isMinus, signed, if_neg Bool.false_ne_true] at this

end TouchOff
