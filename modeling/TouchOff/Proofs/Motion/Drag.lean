import TouchOff.Proofs.Motion.Reach

/-!
# The drag by the gantry

On a belt printer a change of height drags the nozzle along the belt. The Y stepper makes up for the
drag that goes with the commanded height (`Tilt.drag`), while the nozzle is dragged by the whole
steps that the Z stepper makes (`Tilt.realisedDrag`). The machine settles at a point if the two
differ by clearly less than half a Y step (`Kinematics.Settles`), which they do at any height if a
step of the gantry drags the nozzle by less than a Y step (`Kinematics.DragsBelowStep.settles`).
-/

namespace TouchOff

/-! ## Drags -/

namespace Tilt

/-- How far the gantry drags the nozzle along the belt at a height. -/
def drag (t : Tilt) (z : Float) : Float :=
  z / t.sine * t.cosine

/-- How far it does so by the whole steps of the stepper that brings it to that height. -/
def realisedDrag (t : Tilt) (s : Stepper) (z : Float) : Float :=
  s.reaches (z / t.sine) * t.cosine

/-- Equal heights, which may be two zeros, have the same drag in whole steps. -/
theorem realisedDrag_congr (t : Tilt) (s : Stepper) {z z' : Float} (h : (z == z') = true) :
    t.realisedDrag s z = t.realisedDrag s z' := by
  have hcount : (s.commanded (z / t.sine)).count = (s.commanded (z' / t.sine)).count := by
    rcases quotients_of_beq h t.sine with heq | ⟨hz, hz'⟩
    · rw [heq]
    · change nearestWhole (z / t.sine / s.stepDistance) =
        nearestWhole (z' / t.sine / s.stepDistance)
      rw [nearestWhole_eq_zero (value_quotient_eq_zero hz),
        nearestWhole_eq_zero (value_quotient_eq_zero hz')]
  rw [realisedDrag, realisedDrag, Stepper.reaches_eq, Stepper.reaches_eq, hcount]

end Tilt

/-- A point on a tilted machine at which the Y stepper can make up for the drag: what is commanded
is finite and of ordinary size, and the drag differs by clearly less than half a Y step from that of
the whole steps of the Z stepper. -/
structure Kinematics.Settles (k : Kinematics) (tilt : Tilt) (p : Point) : Prop where
  drag : (tilt.drag p.z).isFinite
  realised : (tilt.realisedDrag k.rails.z.stepper p.z).isFinite
  close : |value (tilt.drag p.z) - value (tilt.realisedDrag k.rails.z.stepper p.z)| ≤
    127 / 256 * value k.rails.y.stepper.stepDistance
  ordinary : |value p.y| ≤ 2 ^ 40 * value k.rails.y.stepper.stepDistance

instance (k : Kinematics) (tilt : Tilt) (p : Point) : Decidable (k.Settles tilt p) :=
  decidable_of_iff
    ((tilt.drag p.z).isFinite ∧ (tilt.realisedDrag k.rails.z.stepper p.z).isFinite ∧
      |value (tilt.drag p.z) - value (tilt.realisedDrag k.rails.z.stepper p.z)| ≤
        127 / 256 * value k.rails.y.stepper.stepDistance ∧
      |value p.y| ≤ 2 ^ 40 * value k.rails.y.stepper.stepDistance)
    ⟨fun ⟨hdrag, hrealised, hclose, hordinary⟩ => ⟨hdrag, hrealised, hclose, hordinary⟩,
      fun ⟨hdrag, hrealised, hclose, hordinary⟩ => ⟨hdrag, hrealised, hclose, hordinary⟩⟩

/-- A tilted machine on which a step of the gantry drags the nozzle by a little less than a Y step,
and a point on it with all that is commanded finite and of ordinary size. -/
structure Kinematics.DragsBelowStep (k : Kinematics) (tilt : Tilt) (p : Point) : Prop where
  gantry : k.rails.z.stepper.stepDistance.isFinite
  positive : 0 < value k.rails.z.stepper.stepDistance
  cosine : tilt.cosine.isFinite
  nonneg : 0 ≤ value tilt.cosine
  below : value k.rails.z.stepper.stepDistance * value tilt.cosine ≤
    63 / 64 * value k.rails.y.stepper.stepDistance
  least : 2 ^ 20 * Exact.least ≤ value k.rails.y.stepper.stepDistance
  target : (p.z / tilt.sine).isFinite
  steps : Stepper.Ordinary (k.rails.z.stepper.commanded (p.z / tilt.sine)).count
  drag : (tilt.drag p.z).isFinite
  realised : (tilt.realisedDrag k.rails.z.stepper p.z).isFinite
  ordinary : |value p.y| ≤ 2 ^ 40 * value k.rails.y.stepper.stepDistance

namespace Kinematics

variable {k : Kinematics} {p : Point} {tilt : Tilt}

/-- Two positions that are close to the same number of steps have drags that are close to each
other. -/
theorem drags_near {n d cosine gantry position drag realised : ℚ} (hpos : 0 < d)
    (hcosine : 0 ≤ cosine) (hn : |n| ≤ 2 ^ 40)
    (hgantry : |gantry - n * d| ≤ (1 / 2 + 1 / 2 ^ 10) * d)
    (hposition : |position - n * d| ≤ d / 2 ^ 12)
    (hdrag : |drag - gantry * cosine| ≤ |gantry * cosine| / 2 ^ 52 + Exact.least)
    (hrealised : |realised - position * cosine| ≤ |position * cosine| / 2 ^ 52 + Exact.least) :
    |drag - realised| ≤ (1 / 2 + 1 / 2 ^ 8) * (d * cosine) + 2 * Exact.least := by
  have hscaled : ∀ {a b : ℚ}, |a| ≤ b * d → |a * cosine| ≤ b * (d * cosine) := by
    intro a b hab
    rw [abs_mul, abs_of_nonneg hcosine, ← mul_assoc]
    exact mul_le_mul_of_nonneg_right hab hcosine
  have hsteps : |n * d| ≤ 2 ^ 40 * d := by
    rw [abs_mul, abs_of_pos hpos]
    exact mul_le_mul_of_nonneg_right hn hpos.le
  have hgantry_le : |gantry| ≤ 2 ^ 41 * d := by
    have := abs_sub_abs_le_abs_sub gantry (n * d)
    linarith
  have hposition_le : |position| ≤ 2 ^ 41 * d := by
    have := abs_sub_abs_le_abs_sub position (n * d)
    linarith
  have hdifference : |gantry - position| ≤ (1 / 2 + 1 / 2 ^ 9) * d := by
    -- Half a step from the choice of the step; all the rest is rounding.
    have := abs_sub_le gantry (n * d) position
    rw [abs_sub_comm position] at hposition
    linarith
  have hdrag_le := hscaled hgantry_le
  have hrealised_le := hscaled hposition_le
  have hapart := hscaled hdifference
  rw [sub_mul] at hapart
  rw [abs_le] at hdrag hrealised hapart ⊢
  constructor <;> linarith

/-- A Y step is longer than nothing there. -/
theorem DragsBelowStep.positive_y (h : k.DragsBelowStep tilt p) :
    0 < value k.rails.y.stepper.stepDistance := by
  linarith [Exact.least_pos, h.least]

/-- The Y stepper can make up for the drag at every height if a step of the gantry drags the nozzle
by a little less than a Y step. -/
theorem DragsBelowStep.settles (h : k.DragsBelowStep tilt p) : k.Settles tilt p := by
  refine ⟨h.drag, h.realised, ?_, h.ordinary⟩
  have hreaches :=
    isFinite_of_product (Stepper.not_isNaN_reaches h.gantry h.steps) h.cosine h.realised
  have hdrag := (rounded_product h.target h.cosine).roundsTo
  have hrealised := (rounded_product hreaches h.cosine).roundsTo
  have hnear := drags_near h.positive h.nonneg h.steps.cast
    (Stepper.target_near h.gantry h.positive h.target h.steps)
    (Stepper.reaches_near h.gantry h.positive h.steps hreaches)
    (hdrag.near (hdrag.abs_lt_beyond_of_value (representable_value h.drag).2))
    (hrealised.near (hrealised.abs_lt_beyond_of_value (representable_value h.realised).2))
  refine hnear.trans ?_
  linarith [Exact.least_pos, h.below, h.least]

/-- With steps of the usual size and an angle of 45 degrees it is so. -/
example : DragsBelowStep
    ⟨.belt ⟨0.7071067811865475, 0.7071067811865476⟩,
      .fill ⟨⟨"stepper", 0.0125, 0⟩, ⟨0.0, 200.0⟩, none⟩, .unhomed⟩
    ⟨0.7071067811865475, 0.7071067811865476⟩ ⟨0.0, 10.0, 0.005⟩ where
  gantry := by decide +kernel
  positive := by decide +kernel
  cosine := by decide +kernel
  nonneg := by decide +kernel
  below := by decide +kernel
  least := by
    have hleast : Exact.least ≤ 2 ^ (-40 : ℤ) := by
      rw [Exact.least]
      exact zpow_le_zpow_right₀ one_le_two (by decide)
    exact (mul_le_mul_of_nonneg_left hleast (by norm_num)).trans (by decide +kernel)
  target := by decide +kernel
  steps := by decide +kernel
  drag := by decide +kernel
  realised := by decide +kernel
  ordinary := by decide +kernel

end Kinematics

/-! ## Tilts -/

/-- The tilt of a geometry, if it has one. -/
def Geometry.tilt? : Geometry → Option Tilt
  | cartesian => none
  | belt tilt => some tilt

/-- The tilts that an angle of 45 degrees can have: sine and cosine are each one of the two doubles
next to the value. -/
def Tilt.halfRight : List Tilt := [
  ⟨0.7071067811865475, 0.7071067811865475⟩, ⟨0.7071067811865475, 0.7071067811865476⟩,
  ⟨0.7071067811865476, 0.7071067811865475⟩, ⟨0.7071067811865476, 0.7071067811865476⟩]

/-- The side that is chosen is one of the two. -/
theorem chosen_cases (proposed : Float) (sides : Float × Float) :
    Circle.chosen proposed sides = sides.1 ∨ Circle.chosen proposed sides = sides.2 := by
  rw [Circle.chosen]
  split
  · exact .inr rfl
  · exact .inl rfl

/-- The sine of a finite angle other than zero is one of the two doubles next to its value. -/
theorem sine_of_finite {x : Float} {negative : Bool} {m : Nat} {e : Int}
    (h : Exact.ofFloat x = .finite negative m e) (hm : 0 < m) :
    sine x = Circle.chosen x.sin (Circle.neighboursOf Prod.fst negative m e) := by
  rw [sine, h]
  cases m with
  | zero => exact absurd hm (lt_irrefl 0)
  | succ m => rfl

/-- The cosine of a finite angle other than zero is one of the two doubles next to its value. -/
theorem cosine_of_finite {x : Float} {negative : Bool} {m : Nat} {e : Int}
    (h : Exact.ofFloat x = .finite negative m e) (hm : 0 < m) :
    cosine x = Circle.chosen x.cos (Circle.neighboursOf Prod.snd negative m e) := by
  rw [cosine, h]
  cases m with
  | zero => exact absurd hm (lt_irrefl 0)
  | succ m => rfl

/-- An angle of 45 degrees has one of these tilts. -/
theorem ofDegrees_mem_halfRight : Tilt.ofDegrees 45.0 ∈ Tilt.halfRight := by
  have hexact : Exact.ofFloat (radians 45.0) = .finite false 7074237752028440 (-53) := by
    decide +kernel
  have hsine : Circle.neighboursOf Prod.fst false 7074237752028440 (-53) =
      (0.7071067811865475, 0.7071067811865476) := by
    decide +kernel
  have hcosine : Circle.neighboursOf Prod.snd false 7074237752028440 (-53) =
      (0.7071067811865475, 0.7071067811865476) := by
    decide +kernel
  rw [Tilt.ofDegrees, sine_of_finite hexact (by decide), cosine_of_finite hexact (by decide),
    hsine, hcosine]
  rcases chosen_cases (radians 45.0).sin (0.7071067811865475, 0.7071067811865476) with hs | hs <;>
    rcases chosen_cases (radians 45.0).cos (0.7071067811865475, 0.7071067811865476) with hc | hc <;>
    rw [hs, hc] <;> simp [Tilt.halfRight]

end TouchOff
