import TouchOff.Motion.Rail
import TouchOff.Proofs.Number.Whole

/-!
# Steps that are found again

A stepper realises a whole number of steps, and the position of that number is computed to a small
part of a step (`Stepper.position_near`). Commanded to anything that is clearly less than half a
step away from a whole number of steps, a stepper goes to that number
(`Stepper.nearestWhole_quotient`); so it finds back to a position that it has realised
(`Stepper.reaches_again`).
-/

namespace TouchOff

/-- The least positive double is much smaller than anything that is compared here. -/
theorem Exact.least_le : Exact.least ≤ 1 / 2 ^ 12 := by
  have h : (2 : ℚ) ^ (-1074 : ℤ) ≤ 2 ^ (-12 : ℤ) := zpow_le_zpow_right₀ one_le_two (by decide)
  rw [Exact.least]
  exact h.trans_eq (by rw [zpow_neg]; norm_num)

namespace Stepper

/-- The position of the step nearest to a position. -/
def reaches (s : Stepper) (position : Float) : Float :=
  (s.commanded position).position

/-- A stepper gets to a whole number of steps. -/
theorem reaches_eq (s : Stepper) (position : Float) :
    s.reaches position = Float.ofInt (s.commanded position).count * s.stepDistance := rfl

variable {d : Float} {n : ℤ}

/-- A step count is an ordinary one if it is far from those that a double cannot tell apart. -/
def Ordinary (n : ℤ) : Prop := |n| ≤ 2 ^ 40

instance (n : ℤ) : Decidable (Ordinary n) :=
  decidable_of_iff (n.natAbs ≤ 2 ^ 40) (by
    rw [Ordinary, Int.abs_eq_natAbs]
    exact_mod_cast Iff.rfl)

/-- An ordinary number of steps is within its bound as a rational number too. -/
theorem Ordinary.cast (hn : Ordinary n) : |(n : ℚ)| ≤ 2 ^ 40 := by exact_mod_cast hn

/-- An ordinary number of steps is told apart from its neighbours by a double. -/
theorem Ordinary.lt (hn : Ordinary n) : |n| < 2 ^ 53 := lt_of_le_of_lt hn (by norm_num)

/-- The position of an ordinary number of steps is the exact one, rounded. -/
theorem rounded_position (hd : d.isFinite) (hn : Ordinary n) :
    Rounded (n * value d) (Float.ofInt n * d) := by
  obtain ⟨hfinite, hvalue⟩ := value_ofInt hn.lt
  rw [← hvalue]
  exact rounded_product hfinite hd

/-- The position of an ordinary number of steps is computed to a small part of a step. -/
theorem position_near (hd : d.isFinite) (hpos : 0 < value d) (hn : Ordinary n)
    (hposition : (Float.ofInt n * d).isFinite) :
    |value (Float.ofInt n * d) - n * value d| ≤ value d / 2 ^ 12 := by
  have hround := (rounded_position hd hn).roundsTo
  have hgrid : OnGrid (n * value d) := (representable_value hd).1.onGrid.int_mul n
  have hbeyond := hround.abs_lt_beyond_of_value (representable_value hposition).2
  calc |value (Float.ofInt n * d) - n * value d| ≤ |n * value d| / 2 ^ 52 :=
        hround.near_of_onGrid hbeyond hgrid
    _ = |(n : ℚ)| * value d / 2 ^ 52 := by rw [abs_mul, abs_of_pos hpos]
    _ ≤ 2 ^ 40 * value d / 2 ^ 52 := by gcongr; exact hn.cast
    _ = value d / 2 ^ 12 := by ring

/-- A stepper that is commanded to less than half a step from a number of steps goes to it. -/
theorem nearestWhole_quotient {t : Float} (hd : d.isFinite) (hpos : 0 < value d) (hn : Ordinary n)
    (ht : t.isFinite) (h : |value t - n * value d| ≤ 255 / 512 * value d) :
    nearestWhole (t / d) = n := by
  have hround := rounded_quotient ht hd hpos.ne'
  have hquotient : |value t / value d - n| ≤ 255 / 512 := by
    rw [← mul_div_cancel_right₀ (n : ℚ) hpos.ne', ← sub_div, abs_div, abs_of_pos hpos,
      div_le_iff₀ hpos]
    exact h
  have hsmall : |value t / value d| ≤ 2 ^ 40 + 1 := by
    have := abs_sub_abs_le_abs_sub (value t / value d) n
    linarith [hn.cast]
  have hbeyond : (2 : ℚ) ^ 42 < Exact.beyond := by
    rw [Exact.beyond, ← zpow_natCast]
    exact zpow_lt_zpow_right₀ one_lt_two (by decide)
  have hnear : |value (t / d) - value t / value d| ≤ (2 ^ 40 + 1) / 2 ^ 52 + 1 / 2 ^ 12 := by
    refine (hround.roundsTo.near (by linarith)).trans ?_
    gcongr
    exact Exact.least_le
  have hfinite : (t / d).isFinite := by
    refine isFinite_of_abs_value_lt hround.number ?_
    have := abs_sub_abs_le_abs_sub (value (t / d)) (value t / value d)
    linarith
  refine nearestWhole_eq hfinite hn.lt ?_
  have := abs_sub_le (value (t / d)) (value t / value d) n
  linarith

/-- A stepper that makes an ordinary number of steps gets to a number. -/
theorem not_isNaN_reaches {s : Stepper} {t : Float} (hd : s.stepDistance.isFinite)
    (hn : Ordinary (s.commanded t).count) : ¬ (s.reaches t).isNaN :=
  (rounded_position hd hn).number

/-- A stepper that is commanded gets close to a number of steps. -/
theorem reaches_near {s : Stepper} {t : Float} (hd : s.stepDistance.isFinite)
    (hpos : 0 < value s.stepDistance) (hn : Ordinary (s.commanded t).count)
    (hreaches : (s.reaches t).isFinite) :
    |value (s.reaches t) - (s.commanded t).count * value s.stepDistance| ≤
      value s.stepDistance / 2 ^ 12 :=
  position_near hd hpos hn hreaches

/-- What is rounded to an ordinary number of steps is finite. -/
theorem isFinite_of_nearestWhole {x : Float} (hx : ¬ x.isNaN) (hn : Ordinary (nearestWhole x)) :
    x.isFinite := by
  by_contra hfinite
  obtain ⟨sign, hsign⟩ := unpack_eq_infinity hx hfinite
  have hcount : nearestWhole x = if isMinus sign then leastCount else greatestCount := by
    rw [nearestWhole, Exact.ofFloat_eq_ofUnpacked, hsign]
    rfl
  rw [hcount, Ordinary] at hn
  cases sign <;> exact absurd hn (by decide)

/-- A stepper that makes an ordinary number of steps was not commanded to an infinity. -/
theorem isFinite_of_ordinary {s : Stepper} {t : Float} (hd : s.stepDistance.isFinite)
    (ht : ¬ t.isNaN) (hn : Ordinary (s.commanded t).count) : t.isFinite := by
  by_contra hfinite
  obtain ⟨sign, hsign⟩ := unpack_eq_infinity ht hfinite
  obtain ⟨sign', hquotient⟩ := infinity_quotient hsign hd
  have hquotient_finite := isFinite_of_nearestWhole (value_of_infinity hquotient).1 hn
  change (t / s.stepDistance).toModel.unpack.isFinite = true at hquotient_finite
  rw [hquotient] at hquotient_finite
  cases hquotient_finite

/-- A stepper goes to a number of steps that is at most half a step, but for a small part of a step,
away from what it is commanded to. -/
theorem target_near {s : Stepper} {t : Float} (hd : s.stepDistance.isFinite)
    (hpos : 0 < value s.stepDistance) (ht : t.isFinite) (hn : Ordinary (s.commanded t).count) :
    |value t - (s.commanded t).count * value s.stepDistance| ≤
      (1 / 2 + 1 / 2 ^ 10) * value s.stepDistance := by
  have hround := rounded_quotient ht hd hpos.ne'
  have hfinite : (t / s.stepDistance).isFinite := isFinite_of_nearestWhole hround.number hn
  have hwhole := abs_sub_nearestWhole_le hfinite (Ordinary.lt hn)
  have herror := hround.roundsTo.near
    (hround.roundsTo.abs_lt_beyond_of_value (representable_value hfinite).2)
  have hcount := Ordinary.cast hn
  obtain ⟨q, hq⟩ : ∃ q, q = value t / value s.stepDistance := ⟨_, rfl⟩
  obtain ⟨x, hx⟩ : ∃ x, x = value (t / s.stepDistance) := ⟨_, rfl⟩
  obtain ⟨n, hn⟩ : ∃ n : ℤ, n = (s.commanded t).count := ⟨_, rfl⟩
  change |value (t / s.stepDistance) - (s.commanded t).count| ≤ 1 / 2 at hwhole
  rw [← hq, ← hx] at herror
  rw [← hx, ← hn] at hwhole
  rw [← hn] at hcount ⊢
  have hleast := Exact.least_le
  have hsmall : |q| ≤ 2 ^ 41 := by
    have h₁ := abs_sub_abs_le_abs_sub q x
    have h₂ := abs_sub_abs_le_abs_sub x n
    rw [abs_sub_comm q x] at h₁
    linarith
  have hnear : |q - n| ≤ 1 / 2 + 1 / 2 ^ 10 := by
    have := abs_sub_le q x n
    rw [abs_sub_comm q x] at this
    linarith
  calc |value t - n * value s.stepDistance| = |q - n| * value s.stepDistance := by
        rw [← abs_of_pos hpos, ← abs_mul, sub_mul, abs_of_pos hpos, hq,
          div_mul_cancel₀ _ hpos.ne']
    _ ≤ (1 / 2 + 1 / 2 ^ 10) * value s.stepDistance :=
        mul_le_mul_of_nonneg_right hnear hpos.le

/-- A stepper gets to the same step again if it is commanded to less than half a step from it. -/
theorem reaches_again {s : Stepper} {t u : Float} (hd : s.stepDistance.isFinite)
    (hpos : 0 < value s.stepDistance) (hn : Ordinary (s.commanded t).count) (hu : u.isFinite)
    (h : |value u - (s.commanded t).count * value s.stepDistance| ≤
      255 / 512 * value s.stepDistance) : s.reaches u = s.reaches t := by
  have hcount : (s.commanded u).count = (s.commanded t).count :=
    nearestWhole_quotient hd hpos hn hu h
  rw [reaches_eq, reaches_eq, hcount]

end Stepper

end TouchOff
