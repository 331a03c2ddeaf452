import TouchOff.Proofs.Motion.Drag

/-!
# Coming back to a point

A machine that is commanded to where it has got to stays there if there is no drag by a gantry, or
if the Y stepper can make up for it (`Kinematics.reaches_y_again`). The command takes the drag from
the height that is commanded and the nozzle is dragged by the whole steps of the Z stepper, so two
roundings come between the coordinate that is commanded and the one that is got to; both are small
beside a step (`difference_sum_near`).
-/

namespace TouchOff

/-- What is left of a position when one drag is taken off and another one is put on again is close
to the position, if the drags are close to each other. -/
theorem difference_sum_near {position realised drag y : Float} {q d : ℚ} (hq : |q| ≤ 2 ^ 40 * d)
    (hposition : position.isFinite) (hrealised : realised.isFinite) (hdrag : drag.isFinite)
    (hresolved : (position - realised).isFinite) (hy : y.isFinite)
    (htarget : (y + drag).isFinite) (hsame : value y = value (position - realised))
    (hnear : |value position - q| ≤ d / 2 ^ 12)
    (hordinary : |value y| ≤ 2 ^ 40 * d) (hclose : |value drag - value realised| ≤ 127 / 256 * d) :
    |value (y + drag) - q| ≤ 255 / 512 * d := by
  have hdifference := (rounded_difference hposition hrealised).roundsTo
  have hsum := (rounded_sum hy hdrag).roundsTo
  have hfirst := hdifference.near_of_onGrid
    (hdifference.abs_lt_beyond_of_value (representable_value hresolved).2)
    ((representable_value hposition).1.onGrid.sub (representable_value hrealised).1.onGrid)
  have hsecond := hsum.near_of_onGrid
    (hsum.abs_lt_beyond_of_value (representable_value htarget).2)
    ((representable_value hy).1.onGrid.add (representable_value hdrag).1.onGrid)
  rw [← hsame] at hfirst
  have hd : 0 ≤ d := by
    have := abs_nonneg q
    linarith
  have hresolved_le : |value position - value realised| ≤ 2 ^ 41 * d := by
    have := abs_sub_abs_le_abs_sub (value position - value realised) (value y)
    rw [abs_sub_comm _ (value y)] at this
    linarith
  -- The sum is split at the number of steps: its parts are the two errors and the two drags.
  have hsum_le : |value y + value drag| ≤ 2 ^ 41 * d := by
    have hsplit : value y + value drag = q + (value position - q) +
        (value y - (value position - value realised)) + (value drag - value realised) := by ring
    rw [hsplit]
    refine (abs_add_le _ _).trans (add_le_add (abs_add_three _ _ _) hclose) |>.trans ?_
    linarith
  rw [abs_le] at hfirst hsecond hnear hclose ⊢
  constructor <;> linarith

/-! ## Back to a coordinate -/

namespace Kinematics

variable {k : Kinematics} {p q : Point} {tilt : Tilt}

/-- Without a gantry the Y coordinate is the step nearest to the commanded one. -/
theorem reaches_y_of_cartesian (hnames : k.Distinct) (h : k.geometry = .cartesian) (p : Point) :
    (k.reaches p).y = k.rails.y.stepper.reaches p.y := by
  rw [reaches_eq hnames, h]
  rfl

/-- With a gantry it is the step nearest to the commanded coordinate with its drag, less the drag of
the whole steps of the Z stepper. -/
theorem reaches_y_of_belt (hnames : k.Distinct) (h : k.geometry = .belt tilt) (p : Point) :
    (k.reaches p).y = k.rails.y.stepper.reaches (p.y + tilt.drag p.z) -
      tilt.realisedDrag k.rails.z.stepper p.z := by
  rw [reaches_eq hnames, h]
  rfl

/-- A machine that is commanded to a Y coordinate that it has got to at the same height gets there
again, if it has no drag to make up for or can make up for it. -/
theorem reaches_y_again (hnames : k.Distinct) (hd : k.rails.y.stepper.stepDistance.isFinite)
    (hpos : 0 < value k.rails.y.stepper.stepDistance)
    (hordinary : Stepper.Ordinary (k.commanded p).rails.y.stepper.count)
    (hordinary' : Stepper.Ordinary (k.commanded q).rails.y.stepper.count)
    (hsettles : ∀ tilt, k.geometry = .belt tilt → k.Settles tilt q)
    (hz : (p.z == q.z) = true) (hy : (q.y == (k.reaches p).y) = true) :
    (k.reaches q).y = (k.reaches p).y := by
  obtain ⟨⟨hnumber, -⟩, hvalue⟩ := beq_iff.1 hy
  change Stepper.Ordinary (k.rails.y.stepper.commanded (k.geometry.stepperTargets p).y).count
    at hordinary
  change Stepper.Ordinary (k.rails.y.stepper.commanded (k.geometry.stepperTargets q).y).count
    at hordinary'
  cases hgeometry : k.geometry with
  | cartesian =>
    rw [hgeometry] at hordinary hordinary'
    change Stepper.Ordinary (k.rails.y.stepper.commanded p.y).count at hordinary
    have htarget : q.y.isFinite := Stepper.isFinite_of_ordinary hd hnumber hordinary'
    have hp := reaches_y_of_cartesian hnames hgeometry p
    rw [hp] at hy hvalue
    have hnear := Stepper.reaches_near hd hpos hordinary (isFinite_of_beq htarget hy)
    rw [← hvalue] at hnear
    have hagain : k.rails.y.stepper.reaches q.y = k.rails.y.stepper.reaches p.y :=
      Stepper.reaches_again hd hpos hordinary htarget (hnear.trans (by linarith))
    rw [hp, reaches_y_of_cartesian hnames hgeometry q, hagain]
  | belt tilt =>
    obtain ⟨hdrag, hrealised, hclose, hsmall⟩ := hsettles tilt hgeometry
    rw [hgeometry] at hordinary hordinary'
    change Stepper.Ordinary (k.rails.y.stepper.commanded (p.y + tilt.drag p.z)).count at hordinary
    have htarget : (q.y + tilt.drag q.z).isFinite :=
      Stepper.isFinite_of_ordinary hd (not_isNaN_add hnumber hdrag) hordinary'
    -- At the same height the drags that are realised agree, though the heights may be two zeros.
    have hp : (k.reaches p).y = k.rails.y.stepper.reaches (p.y + tilt.drag p.z) -
        tilt.realisedDrag k.rails.z.stepper q.z := by
      rw [reaches_y_of_belt hnames hgeometry, tilt.realisedDrag_congr _ hz]
    rw [hp] at hy hvalue
    have hfinite := isFinite_of_sum hnumber hdrag htarget
    have hresolved := isFinite_of_beq hfinite hy
    have hposition :=
      isFinite_of_difference (Stepper.not_isNaN_reaches hd hordinary) hrealised hresolved
    have hcount : |((k.rails.y.stepper.commanded (p.y + tilt.drag p.z)).count : ℚ) *
        value k.rails.y.stepper.stepDistance| ≤
          2 ^ 40 * value k.rails.y.stepper.stepDistance := by
      rw [abs_mul, abs_of_pos hpos]
      exact mul_le_mul_of_nonneg_right hordinary.cast hpos.le
    have hnear := difference_sum_near hcount hposition hrealised hdrag hresolved hfinite htarget
      hvalue (Stepper.reaches_near hd hpos hordinary hposition) hsmall hclose
    have hagain := Stepper.reaches_again hd hpos hordinary htarget hnear
    rw [hp, reaches_y_of_belt hnames hgeometry, hagain]

end Kinematics

end TouchOff
