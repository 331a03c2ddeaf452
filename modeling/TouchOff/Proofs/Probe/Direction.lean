import TouchOff.Probe.Step
import TouchOff.Proofs.Number.Order

/-!
# The direction of a step

A relative step goes to the nearer of two positions: the one that is `reach` away, and the tested
position on its side, or the middle between that one and here. So it goes the way it says if that
tested position is on its side (`Step.le_target_up`, `Step.target_down_le`). Where nothing was
tested, `Step.farAway` stands for the tested position, and the same holds as long as the axis is not
farther away itself; a coarse step is then a whole `reach` if that does not lead past it either
(`Step.goes_its_way`). An axis beyond `Step.farAway` is sent back by a step up
(`Step.not_goes_its_way_beyond`).
-/

namespace TouchOff

namespace Step

variable {p reach : Float} {lower upper : Option Float}

/-! ## The direction -/

/-- A step up does not lead down if the tested position above, or what stands for it, is not
below. -/
theorem le_target_up (hp : p.isFinite) (hreach : reach.isFinite) (hpos : 0.0 < reach)
    (hup : p ≤ upper.getD farAway) (hsum : (upper.getD farAway + p).isFinite) :
    p ≤ target up p lower upper reach ∧ p ≤ target upCoarse p lower upper reach := by
  have hfar := le_sum_of_nonneg hp hreach (le_of_below hpos)
  refine ⟨le_lesser ?_ hfar, le_lesser hup hfar⟩
  rw [sum_comm] at hsum ⊢
  exact (middle_between hup hp hsum).1

/-- A step down does not lead up if the tested position below, or what stands for it, is not
above. -/
theorem target_down_le (hp : p.isFinite) (hreach : reach.isFinite) (hpos : 0.0 < reach)
    (hdown : lower.getD (-farAway) ≤ p) (hsum : (lower.getD (-farAway) + p).isFinite) :
    target down p lower upper reach ≤ p ∧ target downCoarse p lower upper reach ≤ p := by
  have hfar := difference_le_of_nonneg hp hreach (le_of_below hpos)
  have hlower := isFinite_of_sum (le_iff.1 hdown).1.1 hp hsum
  exact ⟨greater_le (middle_between hdown hlower hsum).2 hfar, greater_le hdown hfar⟩

/-- What stands for a missing position is a number, on either side. -/
theorem not_isNaN_farAway : ¬ farAway.isNaN ∧ ¬ (-farAway).isNaN := by decide +kernel

/-- Where nothing was tested above, a coarse step up leads up as long as the axis is not beyond
`farAway`, and is a whole `reach` as long as that does not lead beyond it. -/
theorem target_upCoarse_none (hp : p.isFinite) (hreach : reach.isFinite) (hpos : 0.0 < reach) :
    (p ≤ target upCoarse p lower none reach ↔ p ≤ farAway) ∧
      (target upCoarse p lower none reach = p + reach ↔ p + reach ≤ farAway) := by
  have hnumber := (rounded_sum hp hreach).number
  refine ⟨⟨fun hle => ?_, fun hle => ?_⟩, lesser_eq_right_iff not_isNaN_farAway.1 hnumber⟩
  · exact le_of_le_of_le hle (lesser_le_left not_isNaN_farAway.1 hnumber)
  · exact le_lesser hle (le_sum_of_nonneg hp hreach (le_of_below hpos))

/-- Where nothing was tested below, a coarse step down leads down as long as the axis is not beyond
the negative of `farAway`, and is a whole `reach` as long as that does not lead beyond it. -/
theorem target_downCoarse_none (hp : p.isFinite) (hreach : reach.isFinite) (hpos : 0.0 < reach) :
    (target downCoarse p none upper reach ≤ p ↔ -farAway ≤ p) ∧
      (target downCoarse p none upper reach = p - reach ↔ -farAway ≤ p - reach) := by
  have hnumber := (rounded_difference hp hreach).number
  refine ⟨⟨fun hle => ?_, fun hle => ?_⟩, greater_eq_right_iff not_isNaN_farAway.2 hnumber⟩
  · exact le_of_le_of_le (left_le_greater not_isNaN_farAway.2 hnumber) hle
  · exact greater_le hle (difference_le_of_nonneg hp hreach (le_of_below hpos))

/-- **Relative steps go the way they say.** From a finite position between the tested positions next
to it, a step up does not lead down and a step down does not lead up, if there is a tested position
on that side or the axis is not beyond `farAway`. Where there is none, a coarse step goes the way it
says just if the axis is not beyond `farAway`, and is a whole `reach` just if it does not lead
beyond it. -/
theorem goes_its_way (hp : p.isFinite) (hreach : reach.isFinite) (hpos : 0.0 < reach)
    (hlower : ∀ l ∈ lower, l < p) (hupper : ∀ u ∈ upper, p < u)
    (hdown : (lower.getD (-farAway) + p).isFinite) (hup : (upper.getD farAway + p).isFinite) :
    ((upper = none → p ≤ farAway) →
        p ≤ target up p lower upper reach ∧ p ≤ target upCoarse p lower upper reach) ∧
      ((lower = none → -farAway ≤ p) →
        target down p lower upper reach ≤ p ∧ target downCoarse p lower upper reach ≤ p) ∧
      (upper = none → (p ≤ target upCoarse p lower upper reach ↔ p ≤ farAway) ∧
        (target upCoarse p lower upper reach = p + reach ↔ p + reach ≤ farAway)) ∧
      (lower = none → (target downCoarse p lower upper reach ≤ p ↔ -farAway ≤ p) ∧
        (target downCoarse p lower upper reach = p - reach ↔ -farAway ≤ p - reach)) := by
  refine ⟨fun hfar => ?_, fun hfar => ?_, ?_, ?_⟩
  · refine le_target_up hp hreach hpos ?_ hup
    cases upper with
    | none => exact hfar rfl
    | some u => exact le_of_below (hupper u rfl)
  · refine target_down_le hp hreach hpos ?_ hdown
    cases lower with
    | none => exact hfar rfl
    | some l => exact le_of_below (hlower l rfl)
  · rintro rfl
    exact target_upCoarse_none hp hreach hpos
  · rintro rfl
    exact target_downCoarse_none hp hreach hpos

/-- Just below `farAway`, a coarse step up is still a whole `reach` if that does not lead beyond
it. -/
theorem goes_its_way_below :
    (9999999999999.75 : Float) ≤ target up 9999999999999.75 (some 1.0) none 0.125 ∧
      target down 9999999999999.75 (some 1.0) none 0.125 ≤ 9999999999999.75 ∧
      target upCoarse 9999999999999.75 (some 1.0) none 0.125 = 9999999999999.75 + 0.125 := by
  have hlower : ∀ l ∈ some (1.0 : Float), l < 9999999999999.75 := by decide +kernel
  obtain ⟨hup, hdown, hcoarse, -⟩ := @goes_its_way 9999999999999.75 0.125 (some 1.0) none
    (by decide +kernel) (by decide +kernel) (by decide +kernel) hlower nofun (by decide +kernel)
    (by decide +kernel)
  exact ⟨(hup fun _ => by decide +kernel).1, (hdown nofun).1,
    (hcoarse rfl).2.2 (by decide +kernel)⟩

/-- Not every relative step goes the way it says: from a position beyond `farAway`, with nothing
tested yet, a step up leads down. -/
theorem not_goes_its_way_beyond : ¬ ∀ (p reach : Float) (lower upper : Option Float),
    p.isFinite → reach.isFinite → 0.0 < reach → (∀ l ∈ lower, l < p) → (∀ u ∈ upper, p < u) →
      (lower.getD (-farAway) + p).isFinite → (upper.getD farAway + p).isFinite →
      (p + reach).isFinite → (p - reach).isFinite →
        (p ≤ target up p lower upper reach ∧ p ≤ target upCoarse p lower upper reach) ∧
          (target down p lower upper reach ≤ p ∧ target downCoarse p lower upper reach ≤ p) ∧
          (upper = none → target upCoarse p lower upper reach = p + reach) ∧
          (lower = none → target downCoarse p lower upper reach = p - reach) := by
  intro hall
  obtain ⟨⟨-, hcoarse⟩, -⟩ := hall 20000000000000.0 0.5 none none (by decide +kernel)
    (by decide +kernel) (by decide +kernel) nofun nofun (by decide +kernel) (by decide +kernel)
    (by decide +kernel) (by decide +kernel)
  exact absurd hcoarse (by decide +kernel)

end Step

end TouchOff
