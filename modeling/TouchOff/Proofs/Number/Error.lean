import Mathlib.Data.Int.Log
import TouchOff.Proofs.Number.Arithmetic

/-!
# How far rounding goes

What a number is rounded to is not further away than the next double (`RoundsTo.abs_sub_le`). That
is a small part of the number, unless the number lies among the smallest doubles (`RoundsTo.near`),
and always a small part of it if it is a multiple of the smallest double
(`RoundsTo.near_of_onGrid`), as sums of doubles and whole multiples of doubles are.
-/

open Float.Model Float.Model.UnpackedFloat

namespace TouchOff

/-- The smallest positive double. -/
@[irreducible] def Exact.least : ℚ := 2 ^ (-1074 : ℤ)

/-- The smallest positive double is positive. -/
theorem Exact.least_pos : 0 < Exact.least := by rw [least]; positivity

/-- A multiple of the smallest double. -/
def OnGrid (q : ℚ) : Prop :=
  ∃ k : ℤ, q = k * Exact.least

/-- A multiple of a power of two is a double, but for a large exponent, if it has no more than 53
bits. -/
theorem representable_mul {j t : ℤ} (hj : |j| ≤ 2 ^ 53) (ht : -1074 ≤ t) :
    Representable (j * 2 ^ t) := by
  rcases hj.lt_or_eq with hlt | heq
  · exact ⟨j, t, hlt, ht, rfl⟩
  · obtain rfl | rfl := eq_or_eq_neg_of_abs_eq heq
    · exact ⟨2 ^ 52, t + 1, by norm_num, by omega, by
        rw [zpow_add_one₀ two_ne_zero]; norm_num; ring⟩
    · exact ⟨-2 ^ 52, t + 1, by norm_num, by omega,
        by rw [zpow_add_one₀ two_ne_zero]; norm_num; ring⟩

/-- A double is a multiple of the smallest one. -/
theorem Representable.onGrid {q : ℚ} (h : Representable q) : OnGrid q := by
  rw [OnGrid, Exact.least]
  exact h.eq_mul (.inl rfl)

/-- The negative of such a multiple is one. -/
theorem OnGrid.neg {p : ℚ} (hp : OnGrid p) : OnGrid (-p) := by
  obtain ⟨k, rfl⟩ := hp
  exact ⟨-k, by push_cast; ring⟩

/-- So is the sum of two of them. -/
theorem OnGrid.add {p q : ℚ} (hp : OnGrid p) (hq : OnGrid q) : OnGrid (p + q) := by
  obtain ⟨k, rfl⟩ := hp
  obtain ⟨l, rfl⟩ := hq
  exact ⟨k + l, by push_cast; ring⟩

/-- So is their difference. -/
theorem OnGrid.sub {p q : ℚ} (hp : OnGrid p) (hq : OnGrid q) : OnGrid (p - q) :=
  sub_eq_add_neg p q ▸ hp.add hq.neg

/-- So is a whole multiple. -/
theorem OnGrid.int_mul {q : ℚ} (hq : OnGrid q) (n : ℤ) : OnGrid (n * q) := by
  obtain ⟨k, rfl⟩ := hq
  exact ⟨n * k, by push_cast; ring⟩

/-! ## Numbers and their roundings -/

section
variable {q v : ℚ}

/-- A double is rounded to itself. -/
theorem RoundsTo.eq_of_representable (h : RoundsTo q v) (hq : Representable q)
    (hbeyond : |q| ≤ Exact.beyond) : v = q :=
  le_antisymm ((h q hq hbeyond).1 le_rfl) ((h q hq hbeyond).2 le_rfl)

/-- A number of 53 bits is not beyond the doubles if its exponent is none that is too large. -/
theorem abs_mul_zpow_le_beyond {j t : ℤ} (hj : |j| ≤ 2 ^ 53) (ht : t ≤ 971) :
    |(j : ℚ) * 2 ^ t| ≤ Exact.beyond := by
  have hj' : |(j : ℚ)| ≤ 2 ^ (53 : ℤ) := by exact_mod_cast hj
  rw [abs_mul, abs_of_pos (by positivity : (0 : ℚ) < 2 ^ t), Exact.beyond]
  calc |(j : ℚ)| * 2 ^ t ≤ 2 ^ (53 : ℤ) * 2 ^ (971 : ℤ) := by
        gcongr
        · norm_num
    _ = 2 ^ (1024 : ℤ) := by rw [← zpow_add₀ two_ne_zero, show (53 : ℤ) + 971 = 1024 by decide]

/-- A number with no more than 53 bits in front of a place is rounded by no more than the place. -/
theorem RoundsTo.abs_sub_le (h : RoundsTo q v) {t : ℤ} (hleast : -1074 ≤ t) (hgreatest : t ≤ 971)
    (hq : |q| ≤ 2 ^ (t + 53)) : |v - q| ≤ 2 ^ t := by
  have hpos : (0 : ℚ) < 2 ^ t := by positivity
  have hscaled : |q / 2 ^ t| ≤ 2 ^ 53 := by
    rw [abs_div, abs_of_pos hpos, div_le_iff₀ hpos, ← zpow_natCast, ← zpow_add₀ two_ne_zero]
    rwa [add_comm] at hq
  -- a multiple of the place next to the number is a double
  have hneighbour : ∀ j : ℤ, |j| ≤ 2 ^ 53 →
      (q ≤ j * 2 ^ t → v ≤ j * 2 ^ t) ∧ (j * 2 ^ t ≤ q → j * 2 ^ t ≤ v) := fun j hj =>
    h _ (representable_mul hj hleast) (abs_mul_zpow_le_beyond hj hgreatest)
  obtain ⟨hlow, hhigh⟩ := abs_le.1 hscaled
  have hfloor : |⌊q / 2 ^ t⌋| ≤ 2 ^ 53 := by
    rw [abs_le]
    exact ⟨Int.le_floor.2 (by exact_mod_cast hlow), Int.floor_le_iff.2 (by push_cast; linarith)⟩
  have hceil : |⌈q / 2 ^ t⌉| ≤ 2 ^ 53 := by
    rw [abs_le]
    exact ⟨Int.le_ceil_iff.2 (by push_cast; linarith), Int.ceil_le.2 (by exact_mod_cast hhigh)⟩
  have hbelow := (hneighbour _ hfloor).2 (by
    rw [← le_div_iff₀ hpos]
    exact Int.floor_le _)
  have habove := (hneighbour _ hceil).1 (by
    rw [← div_le_iff₀ hpos]
    exact Int.le_ceil _)
  have hceil_lt : (⌈q / 2 ^ t⌉ : ℚ) * 2 ^ t < q + 2 ^ t := by
    rw [← lt_div_iff₀ hpos, add_div, div_self hpos.ne']
    exact Int.ceil_lt_add_one _
  have hlt_floor : q - 2 ^ t < (⌊q / 2 ^ t⌋ : ℚ) * 2 ^ t := by
    rw [← div_lt_iff₀ hpos, sub_div, div_self hpos.ne']
    exact Int.sub_one_lt_floor _
  rw [abs_le]
  constructor <;> linarith

/-- A number that is rounded to one that is not too large is not too large itself. -/
theorem RoundsTo.abs_lt_beyond_of_value (h : RoundsTo q v) (hv : |v| < Exact.beyond) :
    |q| < Exact.beyond := by
  obtain ⟨hlow, hhigh⟩ := abs_lt.1 hv
  have hbeyond : |Exact.beyond| ≤ Exact.beyond := (abs_of_pos Exact.beyond_pos).le
  rw [abs_lt]
  constructor
  · by_contra hq
    have := (h (-Exact.beyond) representable_beyond.neg (by rwa [abs_neg])).1 (by linarith)
    linarith
  · by_contra hq
    have := (h Exact.beyond representable_beyond hbeyond).2 (by linarith)
    linarith

/-- A number that is not too large is rounded by a small part of it, unless it is among the smallest
ones, which are rounded by no more than the smallest double. -/
theorem RoundsTo.near_cases (h : RoundsTo q v) (hq : |q| < Exact.beyond) :
    |v - q| ≤ |q| / 2 ^ 52 ∨ |q| ≤ 2 ^ 52 * Exact.least ∧ |v - q| ≤ Exact.least := by
  have hsmallest : (2 : ℚ) ^ 52 * Exact.least = 2 ^ (-1022 : ℤ) := by
    rw [Exact.least, ← zpow_natCast, ← zpow_add₀ two_ne_zero]
    rfl
  rw [hsmallest]
  by_cases hsmall : |q| < 2 ^ (-1022 : ℤ)
  · refine .inr ⟨hsmall.le, ?_⟩
    have hbits : |q| ≤ 2 ^ ((-1074 : ℤ) + 53) :=
      hsmall.le.trans (zpow_le_zpow_right₀ one_le_two (by decide))
    rw [Exact.least]
    exact h.abs_sub_le le_rfl (by decide) hbits
  · rw [not_lt] at hsmall
    have hpos : 0 < |q| := lt_of_lt_of_le (by positivity) hsmall
    obtain ⟨t, ht⟩ : ∃ t, Int.log 2 |q| = t + 52 := ⟨Int.log 2 |q| - 52, by ring⟩
    have hle : (2 : ℚ) ^ (t + 52) ≤ |q| := by
      have hlog := Int.zpow_log_le_self (R := ℚ) (b := 2) one_lt_two hpos
      rwa [ht] at hlog
    have hlt : |q| < (2 : ℚ) ^ (t + 52 + 1) := by
      have hlog := Int.lt_zpow_succ_log_self (R := ℚ) (b := 2) one_lt_two |q|
      rwa [ht] at hlog
    have hleast : -1074 ≤ t := by
      have := (zpow_lt_zpow_iff_right₀ (one_lt_two (α := ℚ))).1 (hsmall.trans_lt hlt)
      omega
    have hgreatest : t ≤ 971 := by
      rw [Exact.beyond] at hq
      have := (zpow_lt_zpow_iff_right₀ (one_lt_two (α := ℚ))).1 (hle.trans_lt hq)
      omega
    left
    calc |v - q| ≤ 2 ^ t := h.abs_sub_le hleast hgreatest (hlt.le.trans_eq (by ring_nf))
      _ = 2 ^ (t + 52) / 2 ^ 52 := by
        rw [zpow_add₀ two_ne_zero]
        norm_num
      _ ≤ |q| / 2 ^ 52 := by gcongr

/-- What is rounded moves by a small part of itself and the smallest double. -/
theorem RoundsTo.near (h : RoundsTo q v) (hq : |q| < Exact.beyond) :
    |v - q| ≤ |q| / 2 ^ 52 + Exact.least := by
  have hleast := Exact.least_pos
  rcases h.near_cases hq with hnear | ⟨-, hnear⟩
  · linarith
  · have : 0 ≤ |q| / 2 ^ 52 := by positivity
    linarith

/-- A multiple of the smallest double is rounded by a small part of it. -/
theorem RoundsTo.near_of_onGrid (h : RoundsTo q v) (hq : |q| < Exact.beyond) (hgrid : OnGrid q) :
    |v - q| ≤ |q| / 2 ^ 52 := by
  rcases h.near_cases hq with hnear | ⟨hsmall, -⟩
  · exact hnear
  · have hrepresentable : Representable q := by
      obtain ⟨k, rfl⟩ := hgrid
      have hpos := Exact.least_pos
      rw [abs_mul, abs_of_pos hpos, mul_le_mul_iff_of_pos_right hpos] at hsmall
      have hk : |k| ≤ 2 ^ 53 := by
        have : |k| ≤ 2 ^ 52 := by exact_mod_cast hsmall
        omega
      rw [Exact.least]
      exact representable_mul hk le_rfl
    rw [h.eq_of_representable hrepresentable hq.le, sub_self, abs_zero]
    positivity

end

/-! ## Products and quotients -/

section
variable {x y : Float}

/-- A product has the product of the signs. -/
theorem signed_mul (s t : Sign) (p q : ℚ) :
    signed (isMinus (s * t)) (p * q) = signed (isMinus s) p * signed (isMinus t) q := by
  cases s <;> cases t
  · exact (neg_mul_neg p q).symm
  · exact (neg_mul p q).symm
  · exact (mul_neg p q).symm
  · rfl

/-- The product of the mantissas of two doubles has enough bits. -/
theorem le_roundedExponent_product {m n : Nat} {e f : Int} (hm : 0 < m) (hn : 0 < n)
    (cm : Exact.Canonical m e) (cn : Exact.Canonical n f) :
    e + f ≤ roundedExponent (m * n) (e + f) := by
  have he := cm.least
  have hf := cn.least
  rw [roundedExponent]
  by_cases hsmall : e = -1074 ∧ f = -1074
  · exact le_max_of_le_right (by omega)
  · have hlarge : 2 ^ 52 ≤ m * n := by
      by_cases hem : e = -1074
      · have hn' : 2 ^ 52 ≤ n := cn.leading.resolve_left fun hfn => hsmall ⟨hem, hfn⟩
        exact hn'.trans (Nat.le_mul_of_pos_left n hm)
      · exact (cm.leading.resolve_left hem).trans (Nat.le_mul_of_pos_right m hn)
    have hlog : 52 ≤ (m * n).log2 := (Nat.le_log2 (by positivity)).2 hlarge
    exact le_max_of_le_left (by omega)

/-- Multiplying unpacked numbers rounds their product. -/
theorem rounded_mul {u v : UnpackedFloat} (hu : u.isFinite) (hv : v.isFinite) (cu : Canonical u)
    (cv : Canonical v) :
    Rounded (unpackedValue u * unpackedValue v) (packed (UnpackedFloat.mul .binary64 u v)) := by
  rcases zero_or_finite hu with ⟨s, rfl⟩ | ⟨s, m, e, hm, rfl⟩
  · rw [unpackedValue_zero, zero_mul]
    rcases zero_or_finite hv with ⟨t, rfl⟩ | ⟨t, n, f, hn, rfl⟩
    · exact rounded_zero _
    · exact rounded_zero _
  · rcases zero_or_finite hv with ⟨t, rfl⟩ | ⟨t, n, f, hn, rfl⟩
    · rw [unpackedValue_zero, mul_zero]
      exact rounded_zero _
    · have hle := le_roundedExponent_product hm hn (cu rfl) (cv rfl)
      have hvalue : unpackedValue (.finite s m e hm) * unpackedValue (.finite t n f hn) =
          signed (isMinus (s * t)) ((m * n : ℕ) * 2 ^ (e + f)) := by
        have hscale : ((m * n : ℕ) : ℚ) * 2 ^ (e + f) = m * 2 ^ e * (n * 2 ^ f) := by
          rw [zpow_add₀ two_ne_zero]
          push_cast
          ring
        rw [hscale, signed_mul]
        rfl
      rw [hvalue]
      exact ⟨(value_roundWithAccuracy _ hle).1, roundsTo_roundWithAccuracy _ hle (brackets_exact _)⟩

/-- The product of two finite doubles is rounded. -/
theorem rounded_product (hx : x.isFinite) (hy : y.isFinite) :
    Rounded (value x * value y) (x * y) := by
  rw [value_eq_unpackedValue, value_eq_unpackedValue]
  exact rounded_mul hx hy (canonical_unpack x) (canonical_unpack y)

/-- The quotient of two finite doubles is rounded, if it is not one by zero. -/
theorem rounded_quotient (hx : x.isFinite) (hy : y.isFinite) (hne : value y ≠ 0) :
    Rounded (value x / value y) (x / y) := by
  rw [value_eq_unpackedValue] at hne
  rw [value_eq_unpackedValue, value_eq_unpackedValue]
  exact rounded_div hx hy hne

end

end TouchOff
