import TouchOff.Proofs.Number.Order
import TouchOff.Proofs.Probe.Approach

/-!
# Room for the clearance

A target within the limits is not always one that a session can go to. An axis that is less than the
clearance above its target is first lifted to that height, and the limits hold for the lift as for
any move. So an advance to a target within the limits succeeds if no lift is needed or the height is
not above the upper limit, and is refused else (`Session.advance_in_range`). Near the upper end of
the travel the second case comes up (`Session.not_advance_near_top`).
-/

namespace TouchOff

/-! ## The limits and a single axis -/

/-- The first axis for which there is something, if there is nothing for the others. -/
theorem Axis.findSome?_all {β : Type} {f : Axis → Option β} {a : Axis} (h : ∀ b ≠ a, f b = none) :
    Axis.all.findSome? f = f a := by
  rw [Axis.all]
  cases a with
  | x => cases hx : f .x <;> simp [hx, h .y nofun, h .z nofun]
  | y => cases hy : f .y <;> simp [hy, h .x nofun, h .z nofun]
  | z => simp [h .x nofun, h .y nofun]

namespace Limits

variable {l : Limits} {a : Axis} {p : Position} {start target : Float}

/-- A homed axis may go to a coordinate within its limits. -/
theorem fault?_of_contains (hhomed : l.isHomed a = true) (htarget : (l.get a).Contains target) :
    l.fault? a start target = none := by
  have hbelow := not_lt_of_le htarget.1
  have habove := not_lt_of_le htarget.2
  rw [fault?, hhomed]
  simp [Range.isExceededBy, hbelow, habove]

/-- A homed axis may not go above its limits from below. -/
theorem fault?_of_above (hhomed : l.isHomed a = true) (hmoves : start < target)
    (htarget : (l.get a).max < target) :
    l.fault? a start target = some (.outOfRange a target (l.get a)) := by
  have hne : ¬ (start == target) = true := fun hbeq =>
    absurd (beq_iff.1 hbeq).2 (lt_iff.1 hmoves).2.ne
  rw [fault?, hhomed, if_neg hne]
  simp [Range.isExceededBy, htarget]

/-- An axis is homed, or its coordinate is a number. -/
def Steady (l : Limits) (p : Position) (a : Axis) : Prop :=
  l.isHomed a = true ∨ ¬ (p.get (.axis a)).isNaN

/-- The limits have no objection to a steady axis staying where it is. Of another one they say that
it is not homed, since what is not a number is taken for a place that differs from itself. -/
theorem fault?_self_eq_none_iff :
    l.fault? a (p.get (.axis a)) (p.get (.axis a)) = none ↔ l.Steady p a := by
  rw [Steady]
  by_cases hnumber : (p.get (.axis a)).isNaN
  · have hne : ¬ (p.get (.axis a) == p.get (.axis a)) = true := not_beq_of_isNaN (.inl hnumber)
    have hbelow : ¬ p.get (.axis a) < (l.get a).min := not_lt_of_isNaN (.inl hnumber)
    have habove : ¬ (l.get a).max < p.get (.axis a) := not_lt_of_isNaN (.inr hnumber)
    rw [fault?, if_neg hne]
    cases l.isHomed a with
    | false =>
      have hunsteady := not_or.2 ⟨Bool.false_ne_true, not_not.2 hnumber⟩
      rw [Bool.not_false, if_pos rfl]
      exact iff_of_false (Option.some_ne_none _) hunsteady
    | true => simp [Range.isExceededBy, hbelow, habove]
  · rw [fault?, if_pos (beq_iff.2 ⟨⟨hnumber, hnumber⟩, rfl⟩)]
    exact iff_of_true rfl (.inr hnumber)

/-- What is wrong with a move of one axis is what the limits of that axis say, if the others are
steady. -/
theorem moveFault?_set (hothers : ∀ b ≠ a, l.Steady p b) :
    l.moveFault? p (p.set (.axis a) target) = l.fault? a (p.get (.axis a)) target := by
  have hother : ∀ b ≠ a, l.fault? b (p.get (.axis b)) ((p.set (.axis a) target).get (.axis b)) =
      none := by
    intro b hb
    rw [Quad.get_set_of_ne _ _ fun h => hb (Channel.axis.inj h)]
    exact fault?_self_eq_none_iff.2 (hothers b hb)
  rw [moveFault?, Axis.findSome?_all hother, Quad.get_set_self]

end Limits

/-! ## Moves of a single axis -/

namespace Toolhead

variable {t : Toolhead} {a : Axis} {speed x : Float}

/-- The limits in force for an axis. -/
def range (t : Toolhead) (a : Axis) : Range :=
  t.kinematics.limits.get a

/-- A toolhead is ready for moves of an axis at a speed: the axis is homed, the others are steady,
and the speed is one to move at. -/
structure Ready (t : Toolhead) (a : Axis) (speed : Float) : Prop where
  homed : t.kinematics.limits.isHomed a = true
  others : ∀ b ≠ a, t.kinematics.limits.Steady t.position b
  speed : speed.isFinite ∧ 0.0 < speed

/-- There is nothing wrong with the speed of a ready toolhead. -/
theorem Ready.speedFault? (h : t.Ready a speed) : Toolhead.speedFault? speed = none := by
  rw [Toolhead.speedFault?, if_pos]
  simpa using h.speed

/-- A toolhead stays ready if it is moved along the axis only. -/
theorem Ready.of_set {t' : Toolhead} (h : t.Ready a speed) {w : Float}
    (hkinematics : t'.kinematics.limits = t.kinematics.limits)
    (hposition : t'.position = t.position.set (.axis a) w) : t'.Ready a speed := by
  refine ⟨hkinematics ▸ h.homed, fun b hb => ?_, h.speed⟩
  rw [Limits.Steady, hkinematics, hposition,
    Quad.get_set_of_ne _ _ fun heq => hb (Channel.axis.inj heq)]
  exact h.others b hb

/-- A ready toolhead accepts a move of the axis within its limits, and stays ready. -/
theorem Ready.jog_within (h : t.Ready a speed) (hx : (t.range a).Contains x) :
    ∃ t', Motion.jog t (.only (.axis a) x) speed = (t', .ok ()) ∧ t'.Ready a speed ∧
      t'.range a = t.range a := by
  rcases t.jog_cases (.only (.axis a) x) speed with ⟨t', hmove, hjog⟩ | ⟨fault, hmove, -⟩
  · refine ⟨t', hjog, ?_⟩
    rw [jog_only] at hmove
    rcases moveTo_eq_ok hmove with ⟨-, rfl⟩ | ⟨-, hposition, hkinematics, -⟩
    · exact ⟨h, rfl⟩
    · exact ⟨h.of_set (congrArg _ hkinematics) hposition, by rw [range, hkinematics]; rfl⟩
  · rw [jog_only, moveTo, h.speedFault?, Limits.moveFault?_set h.others,
      Limits.fault?_of_contains h.homed hx] at hmove
    dsimp only at hmove
    split at hmove <;> cases hmove

/-- A ready toolhead refuses a move of the axis up to above its limits, and nothing changes. -/
theorem Ready.jog_above (h : t.Ready a speed) (hmoves : t.position.get (.axis a) < x)
    (hx : (t.range a).max < x) :
    Motion.jog t (.only (.axis a) x) speed = (t, .error (.outOfRange a x (t.range a))) := by
  have hother : ¬ (t.position.set (.axis a) x).sameNumbers t.position = true := by
    intro hsame
    have hbeq := Quad.beq_of_sameNumbers hsame (.axis a)
    rw [Quad.get_set_self] at hbeq
    exact absurd (beq_iff.1 hbeq).2 (lt_iff.1 hmoves).2.ne'
  have hmove : t.jog (.only (.axis a) x) speed = .error (.outOfRange a x (t.range a)) := by
    rw [jog_only, moveTo, h.speedFault?, Limits.moveFault?_set h.others,
      Limits.fault?_of_above h.homed hmoves hx]
    exact if_neg hother
  simp only [Motion.jog, hmove]

/-- A flush leaves a toolhead ready. -/
theorem Ready.flush (h : t.Ready a speed) : t.flush.Ready a speed := by
  refine ⟨?_, fun b hb => ?_, h.speed⟩
  · rw [limits_flush]
    exact h.homed
  · rw [limits_flush, position_flush]
    exact h.others b hb

/-- A flush leaves the limits of an axis. -/
theorem range_flush (t : Toolhead) (a : Axis) : t.flush.range a = t.range a := by
  rw [range, limits_flush, range]

/-- So does the question where it is. -/
theorem Ready.resolve (h : t.Ready a speed) (c : ResolvedCache) :
    (c.resolve t).2.2.Ready a speed ∧ (c.resolve t).2.2.range a = t.range a := by
  rw [ResolvedCache.resolve]
  split
  · exact ⟨h, rfl⟩
  · exact ⟨h.flush, t.range_flush a⟩

end Toolhead

/-! ## Approaches and advances -/

namespace ProbeSettings

variable {p : ProbeSettings} {t : Toolhead} {target : Float}

/-- An approach of a target within the limits succeeds if there is no lift or the lift is not to
above the limits. -/
theorem approach_eq_ok (hready : t.Ready p.axis p.speed)
    (htarget : (t.range p.axis).Contains target)
    (hheight : t.position.get (.axis p.axis) < target + p.clearance →
      (t.range p.axis).Contains (target + p.clearance)) :
    ∃ t', p.approach target t = (t', .ok ()) := by
  have hposition : Motion.position t = t.position := rfl
  rw [approach, hposition]
  dsimp only
  split
  · next hbelow =>
    obtain ⟨lifted, hlift, hreadyLifted, hrange⟩ := hready.jog_within (hheight hbelow)
    obtain ⟨t', hdescend, -⟩ := hreadyLifted.jog_within (hrange ▸ htarget)
    rw [hlift]
    exact ⟨t', hdescend⟩
  · obtain ⟨t', hdescend, -⟩ := hready.jog_within htarget
    exact ⟨t', hdescend⟩

/-- An approach with a lift to above the limits is refused before anything is changed. -/
theorem approach_eq_error (hready : t.Ready p.axis p.speed)
    (hbelow : t.position.get (.axis p.axis) < target + p.clearance)
    (habove : (t.range p.axis).max < target + p.clearance) :
    p.approach target t =
      (t, .error (.outOfRange p.axis (target + p.clearance) (t.range p.axis))) := by
  have hposition : Motion.position t = t.position := rfl
  rw [approach, hposition]
  dsimp only
  rw [if_pos hbelow, hready.jog_above hbelow habove]

end ProbeSettings

namespace Session

section
variable {π σ : Type} [Completion π σ]

/-- **Targets within the limits.** If the probed axis is homed, an advance to a target within its
limits is not refused for the target: it succeeds, and the session goes on, if the axis need not be
lifted first or the clearance above the target does not lead above the limits. Else the lift is
refused, the session is ended without an outcome, and the toolhead stays where it was. -/
theorem advance_in_range {s : Session π} (hs : s.active = true) (step : Step)
    (b : Bench Toolhead σ) (hready : b.toolhead.Ready s.settings.axis s.settings.speed)
    (hlimits : (b.toolhead.range s.settings.axis).min.isFinite ∧
      (b.toolhead.range s.settings.axis).max.isFinite)
    (hclearance : s.settings.clearance.isFinite ∧ 0.0 ≤ s.settings.clearance)
    (htarget : (b.toolhead.range s.settings.axis).Contains (s.aim step b)) :
    let range := b.toolhead.range s.settings.axis
    let position := b.toolhead.position.get (.axis s.settings.axis)
    let height := s.aim step b + s.settings.clearance
    let r := s.advance step b
    ((position < height → height ≤ range.max) →
        r.2.2 = .ok (s.aim step b) ∧ r.1.active = true) ∧
      (position < height → range.max < height →
        r.2.2 = .error (.motion (.outOfRange s.settings.axis height range)) ∧
          s.Concludes r.1 b r.2.1 none ∧ r.2.1.toolhead.position = b.toolhead.position) := by
  intro range position height r
  obtain ⟨hreadyResolved, hrange⟩ := hready.resolve s.cache
  change (s.resolve b).2.2.toolhead.Ready s.settings.axis s.settings.speed at hreadyResolved
  change (s.resolve b).2.2.toolhead.range s.settings.axis = range at hrange
  have hposition : (s.resolve b).2.2.toolhead.position = b.toolhead.position :=
    s.cache.position_resolve b.toolhead
  have hmin : range.min ≤ height := by
    have hfinite := isFinite_of_between hlimits.1 hlimits.2 htarget.1 htarget.2
    exact le_of_le_of_le htarget.1 (le_sum_of_nonneg hfinite hclearance.1 hclearance.2)
  refine ⟨fun hroom => ?_, fun hbelow habove => ?_⟩
  · have happroaches : ∃ t', s.settings.approach (s.aim step b) (s.resolve b).2.2.toolhead =
        (t', .ok ()) := by
      refine ProbeSettings.approach_eq_ok hreadyResolved ?_ ?_
      · rw [hrange]
        exact htarget
      · rw [hrange, hposition]
        exact fun hbelow => ⟨hmin, hroom hbelow⟩
    obtain ⟨t', happroach⟩ := happroaches
    have hresult := result_advance_eq hs step b
    rw [happroach] at hresult
    exact ⟨hresult, active_of_advance_ok hs hresult⟩
  · have happroach : s.settings.approach (s.aim step b) (s.resolve b).2.2.toolhead = _ :=
      ProbeSettings.approach_eq_error hreadyResolved (hposition ▸ hbelow) (hrange ▸ habove)
    have hresult := result_advance_eq hs step b
    have hstays := position_advance_eq hs step b
    rw [happroach] at hresult hstays
    rw [hrange] at hresult
    exact ⟨hresult, concludes_of_advance_error hs hresult, hstays.trans hposition⟩

/-- A bench with a machine near the upper end of the axis. -/
def highBench : Bench Toolhead Settings where
  toolhead := Course.restingBench.toolhead.place ⟨0.0, 7.75, 0.0, 0.0⟩ Axis.all
  status := { axis := .y }
  store := {}

/-- A session there. -/
def highSession : Session Purpose where
  settings := {}
  start := ⟨0.0, 7.75, 0.0, 0.0⟩
  lease := { id := 1 }
  purpose := .report .y

/-- The toolhead of that bench is ready to move along the Y axis. -/
theorem highBench_ready : highBench.toolhead.Ready .y 5.0 := by
  refine ⟨by decide +kernel, fun b _ => .inl ?_, by decide +kernel⟩
  cases b <;> decide +kernel

/-- The Y axis is homed there, with the limits of its rail. -/
theorem highBench_range : highBench.toolhead.range .y = ⟨-8.0, 8.0⟩ := by decide +kernel

/-- These are finite. -/
theorem highBench_limits : (highBench.toolhead.range .y).min.isFinite ∧
    (highBench.toolhead.range .y).max.isFinite := by
  rw [highBench_range]
  decide +kernel

/-- Near the upper end an advance by an offset of a millimetre down is made, since the height above
the target is within the limits. -/
theorem advance_in_range_high :
    highBench.toolhead.Ready highSession.settings.axis highSession.settings.speed ∧
      (highBench.toolhead.range .y).Contains (highSession.aim (.offset (-1.0)) highBench) ∧
      (highSession.advance (.offset (-1.0)) highBench).2.2 =
        .ok (highSession.aim (.offset (-1.0)) highBench) := by
  have haim : highSession.aim (.offset (-1.0)) highBench = 6.75 := by decide +kernel
  have htarget : (highBench.toolhead.range .y).Contains
      (highSession.aim (.offset (-1.0)) highBench) := by
    rw [highBench_range, haim]
    exact ⟨by decide +kernel, by decide +kernel⟩
  refine ⟨highBench_ready, htarget, ?_⟩
  refine ((advance_in_range (s := highSession) rfl (.offset (-1.0)) highBench highBench_ready
    highBench_limits (by decide +kernel) htarget).1 fun _ => ?_).1
  rw [haim]
  decide +kernel

/-- Not every advance to a target within the limits is made: near the upper end, a coarse step down
to 7.55 is refused, since the height above it is beyond the limits. -/
theorem not_advance_near_top :
    ¬ ∀ (s : Session Purpose) (b : Bench Toolhead Settings) (step : Step),
      s.active = true → b.toolhead.Ready s.settings.axis s.settings.speed →
        ((b.toolhead.range s.settings.axis).min.isFinite ∧
          (b.toolhead.range s.settings.axis).max.isFinite) →
        s.settings.clearance.isFinite ∧ 0.0 ≤ s.settings.clearance →
        (b.toolhead.range s.settings.axis).Contains
          (b.toolhead.position.get (.axis s.settings.axis)) →
        (b.toolhead.range s.settings.axis).Contains (s.aim step b) →
          (s.advance step b).2.2.toBool = true ∧ (s.advance step b).1.active = true := by
  intro hall
  have hposition : (highBench.toolhead.range .y).Contains
      (highBench.toolhead.position.get (.axis .y)) := by
    rw [highBench_range]
    exact ⟨by decide +kernel, by decide +kernel⟩
  have htarget : (highBench.toolhead.range .y).Contains
      (highSession.aim .downCoarse highBench) := by
    rw [highBench_range]
    exact ⟨by decide +kernel, by decide +kernel⟩
  have hrefused : (highSession.advance .downCoarse highBench).2.2.toBool = false := by
    decide +kernel
  obtain ⟨hmade, -⟩ := hall highSession highBench .downCoarse rfl highBench_ready highBench_limits
    (by decide +kernel) hposition htarget
  exact Bool.false_ne_true (hrefused.symm.trans hmade)

end

end Session

end TouchOff
