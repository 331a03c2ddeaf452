import TouchOff.Motion.Toolhead
import TouchOff.Proofs.Number.Value

/-!
# Travel

The limits in force for an axis are those of its rail, or leave no room if the axis is not homed
(`Kinematics.Guarded`). Nothing that a toolhead is told changes this (`Toolhead.Guarded.told`), so
a move that is accepted leaves an axis where it was, or takes it to a coordinate within the travel
of its rail, or to one that is not a number (`Toolhead.confined_after`). The last is no way out that
was meant to be there: a target is refused if it is below the one limit or above the other, and what
is not a number is neither (`Toolhead.not_confined_nan`).
-/

namespace TouchOff

/-! ## What a toolhead may be told -/

/-- A move: to a position, or of some of the coordinates. -/
inductive Move where
  | goTo (target : Position) (speed : Float)
  | jog (new : Jog) (speed : Float)

/-- What a toolhead may be told to do. -/
inductive Order where
  | move (m : Move)
  | place (position : Position) (axes : List Axis)
  | flush

namespace Toolhead

/-- The toolhead of a machine that was just started: at zero, and with no axis homed. -/
def fresh (geometry : Geometry) (rails : Triple Rail) (maxVelocity : Float) : Toolhead where
  kinematics := { geometry, rails }
  maxVelocity

/-- Makes a move, or refuses it. -/
def perform (t : Toolhead) : Move → Except MotionError Toolhead
  | .goTo target speed => t.moveTo target speed
  | .jog new speed => t.jog new speed

/-- The toolhead once it was told something. A move that is refused leaves it as it was. -/
def told (t : Toolhead) : Order → Toolhead
  | .move m => (t.perform m).toOption.getD t
  | .place position axes => t.place position axes
  | .flush => t.flush

/-- The toolhead once it was told one thing after the other. -/
def after (t : Toolhead) (orders : List Order) : Toolhead :=
  orders.foldl told t

/-- A move goes to a position. -/
theorem perform_eq (t : Toolhead) (m : Move) :
    ∃ target speed, t.perform m = t.moveTo target speed := by
  cases m with
  | goTo target speed => exact ⟨target, speed, rfl⟩
  | jog new speed => exact ⟨t.position.merge new, speed, rfl⟩

/-- A move that is accepted is none, or takes the toolhead to its target, to which the limits in
force have no objection, and waits for a flush. -/
theorem moveTo_eq_ok {t t' : Toolhead} {target : Position} {speed : Float}
    (h : t.moveTo target speed = .ok t') :
    (target.sameNumbers t.position = true ∧ t' = t) ∨
      (t.kinematics.limits.moveFault? t.position target = none ∧ t'.position = target ∧
        t'.kinematics = t.kinematics ∧ t'.pending = true) := by
  rw [moveTo] at h
  split at h
  · cases h
  · split at h
    · next hsame =>
      cases h
      exact .inl ⟨hsame, rfl⟩
    · split at h
      · cases h
      · next hfault =>
        cases h
        exact .inr ⟨hfault, rfl, rfl, rfl⟩

/-- A move that a toolhead is told is accepted, or leaves it as it was. -/
theorem told_move (t : Toolhead) (m : Move) :
    t.told (.move m) = t ∨ ∃ target speed, t.moveTo target speed = .ok (t.told (.move m)) := by
  obtain ⟨target, speed, hperform⟩ := t.perform_eq m
  rw [told, hperform]
  cases hmoved : t.moveTo target speed with
  | error fault => exact .inl rfl
  | ok t' => exact .inr ⟨target, speed, hmoved⟩

/-- What accepted moves, placing and flushing keep is kept whatever a toolhead is told. -/
theorem keeps_told {P : Toolhead → Prop}
    (hmove : ∀ {t t' target speed}, P t → t.moveTo target speed = .ok t' → P t')
    (hplace : ∀ {t} position axes, P t → P (t.place position axes))
    (hflush : ∀ {t}, P t → P t.flush) {t : Toolhead} (h : P t) (order : Order) :
    P (t.told order) := by
  cases order with
  | move m =>
    rcases t.told_move m with hsame | ⟨target, speed, hmoved⟩
    · rw [hsame]
      exact h
    · exact hmove h hmoved
  | place position axes => exact hplace position axes h
  | flush => exact hflush h

end Toolhead

/-! ## The limits in force -/

/-- A coordinate lies within the limits. -/
def Range.Contains (r : Range) (x : Float) : Prop :=
  r.min ≤ x ∧ x ≤ r.max

/-- The limits have no objection to a move of an axis that stays where it is, or is homed and does
not go beyond them. -/
theorem Limits.fault?_eq_none {l : Limits} {a : Axis} {start target : Float}
    (h : l.fault? a start target = none) :
    (start == target) = true ∨ l.isHomed a = true ∧ (l.get a).isExceededBy target = false := by
  rw [fault?] at h
  split at h
  · next hstays => exact .inl hstays
  · split at h
    · cases h
    · next hhomed =>
      split at h
      · cases h
      · next hwithin => exact .inr ⟨by simpa using hhomed, Bool.eq_false_iff.2 hwithin⟩

/-- What is not beyond limits that leave some room lies within them, if it is a number. -/
theorem Range.contains_of_not_isExceededBy {r : Range} {x : Float} (hroom : r.min ≤ r.max)
    (h : r.isExceededBy x = false) (hnumber : ¬ x.isNaN) : r.Contains x := by
  obtain ⟨⟨hmin, hmax⟩, -⟩ := le_iff.1 hroom
  obtain ⟨habove, hbelow⟩ : ¬ x < r.min ∧ ¬ r.max < x := by simpa [isExceededBy] using h
  exact ⟨(le_iff_of_not_lt habove).2 ⟨hmin, hnumber⟩, (le_iff_of_not_lt hbelow).2 ⟨hnumber, hmax⟩⟩

/-- The limits in force for each axis are those of its rail, unless it is not homed; the rails are
as long as the given ones. -/
structure Kinematics.Guarded (rails : Triple Rail) (k : Kinematics) : Prop where
  travel : ∀ a, (k.rails.get a).range = (rails.get a).range
  limits : ∀ a, k.limits.get a = Limits.unhomedRange ∨ k.limits.get a = (rails.get a).range

namespace Kinematics.Guarded

variable {rails : Triple Rail} {k : Kinematics}

/-- A machine that was just set up is guarded by its own rails. -/
theorem fresh (geometry : Geometry) (rails : Triple Rail) :
    ({ geometry, rails } : Kinematics).Guarded rails :=
  ⟨fun _ => rfl, fun a => .inl (by cases a <;> rfl)⟩

/-- Steps change no limits. -/
theorem commanded (h : k.Guarded rails) (p : Point) : (k.commanded p).Guarded rails := by
  refine ⟨fun a => ?_, h.limits⟩
  rw [← h.travel a, Kinematics.commanded, Triple.get_zipWith]
  rfl

/-- Homing an axis puts the limits of its rail in force. -/
theorem homed (h : k.Guarded rails) (a : Axis) : (k.homed a).Guarded rails := by
  refine ⟨h.travel, fun b => ?_⟩
  by_cases hab : b = a
  · subst hab
    exact .inr ((Triple.get_set_self _ _ _).trans (h.travel b))
  · simpa only [Kinematics.homed, Triple.get_set_of_ne _ _ hab] using h.limits b

/-- So does taking a position as the current one, for the axes that it homes. -/
theorem placed (h : k.Guarded rails) (p : Point) (axes : List Axis) :
    (k.placed p axes).Guarded rails := by
  rw [Kinematics.placed]
  -- The axes are homed one after the other, each on top of those before it.
  have hcommanded := h.commanded p
  generalize k.commanded p = commanded at hcommanded
  induction axes generalizing commanded with
  | nil => exact hcommanded
  | cons a axes ih => exact ih _ (hcommanded.homed a)

end Kinematics.Guarded

/-- The limits in force of a toolhead are those of its rails. -/
def Toolhead.Guarded (rails : Triple Rail) (t : Toolhead) : Prop :=
  t.kinematics.Guarded rails

namespace Toolhead.Guarded

variable {rails : Triple Rail} {t t' : Toolhead}

/-- A flush changes no limits. -/
theorem flush (h : t.Guarded rails) : t.flush.Guarded rails := by
  rw [Toolhead.flush]
  split
  · exact h.commanded _
  · exact h

/-- A move that is made changes no limits. -/
theorem moveTo (h : t.Guarded rails) {target : Position} {speed : Float}
    (hmove : t.moveTo target speed = .ok t') : t'.Guarded rails := by
  rcases moveTo_eq_ok hmove with ⟨-, rfl⟩ | ⟨-, -, hkinematics, -⟩
  · exact h
  · rwa [Guarded, hkinematics]

/-- Whatever a toolhead is told, its limits stay those of its rails. -/
theorem told (h : t.Guarded rails) (order : Order) : (t.told order).Guarded rails :=
  keeps_told (fun h => h.moveTo)
    (fun position axes h => Kinematics.Guarded.placed h.flush position.machine axes)
    (fun h => h.flush) h order

/-- Whatever a toolhead is told one thing after the other, its limits stay those of its rails. -/
theorem after (h : t.Guarded rails) (orders : List Order) : (t.after orders).Guarded rails := by
  induction orders generalizing t with
  | nil => exact h
  | cons order orders ih => exact ih (h.told order)

end Toolhead.Guarded

/-! ## Accepted moves -/

namespace Toolhead

/-- A move that is accepted leaves an axis where it was, or the axis was homed and its new
coordinate is not beyond the limits in force. -/
theorem within_limits {t t' : Toolhead} {m : Move} (hmove : t.perform m = .ok t') (a : Axis) :
    (t'.position.get (.axis a) == t.position.get (.axis a)) = true ∨
      t.kinematics.limits.isHomed a = true ∧
        (t.kinematics.limits.get a).isExceededBy (t'.position.get (.axis a)) = false := by
  obtain ⟨target, speed, hperform⟩ := t.perform_eq m
  rcases moveTo_eq_ok (hperform ▸ hmove) with ⟨hsame, rfl⟩ | ⟨hfault, rfl, -⟩
  · have hbeq := Quad.beq_of_sameNumbers hsame (.axis a)
    exact .inl (beq_trans (beq_symm hbeq) hbeq)
  · have haxis := List.findSome?_eq_none_iff.1 hfault a a.mem_all
    exact (Limits.fault?_eq_none haxis).imp_left beq_symm

/-- **Accepted moves stay within the travel.** Whatever a toolhead was told since it was started, a
move that it accepts leaves an axis at the number where it was, or takes it to a coordinate within
the travel of its rail, or to one that is not a number. -/
theorem confined_after (geometry : Geometry) (rails : Triple Rail) (maxVelocity : Float)
    (orders : List Order) {m : Move} {t' : Toolhead}
    (hmove : ((fresh geometry rails maxVelocity).after orders).perform m = .ok t') (a : Axis) :
    (t'.position.get (.axis a) ==
        ((fresh geometry rails maxVelocity).after orders).position.get (.axis a)) = true ∨
      (rails.get a).range.Contains (t'.position.get (.axis a)) ∨
        (t'.position.get (.axis a)).isNaN := by
  have hfresh : (fresh geometry rails maxVelocity).Guarded rails := .fresh geometry rails
  refine (within_limits hmove a).imp_right fun ⟨hhomed, hwithin⟩ => ?_
  rw [or_iff_not_imp_right]
  rw [Limits.isHomed] at hhomed
  rcases (hfresh.after orders).limits a with hunhomed | htravel
  · -- Limits that leave no room do not let a move of their axis through.
    rw [hunhomed] at hhomed
    exact absurd hhomed (by decide)
  · rw [htravel] at hhomed hwithin
    exact Range.contains_of_not_isExceededBy (of_decide_eq_true hhomed) hwithin

/-- A move that the limits have no objection to is accepted, and takes the toolhead to its
target. -/
theorem exists_goTo_eq_ok {t : Toolhead} (target : Position) (speed : Float)
    (hspeed : speedFault? speed = none) (hmoves : target.sameNumbers t.position = false)
    (hfault : t.kinematics.limits.moveFault? t.position target = none) :
    ∃ t', t.perform (.goTo target speed) = .ok t' ∧ t'.position = target := by
  simp only [perform, moveTo, hspeed, hmoves, hfault]
  exact ⟨_, rfl, rfl⟩

/-- Rails of 200 millimetres with steps of a hundredth. -/
def shortRails : Triple Rail where
  x := ⟨⟨"stepper_x", 0.01, 0⟩, ⟨0.0, 200.0⟩, some 0.0⟩
  y := ⟨⟨"stepper_y", 0.01, 0⟩, ⟨0.0, 200.0⟩, some 0.0⟩
  z := ⟨⟨"stepper_z", 0.01, 0⟩, ⟨0.0, 200.0⟩, some 0.0⟩

/-- A toolhead on short rails whose axes are homed at zero. -/
def homedShort : Toolhead :=
  (fresh .cartesian shortRails 300.0).after [.place (.fill 0.0) Axis.all]

/-- A move of a homed toolhead by 20 millimetres is accepted and stays within the travel. -/
theorem confined_after_homing : ∃ t',
    homedShort.perform (.goTo ⟨0.0, 20.0, 0.0, 0.0⟩ 5.0) = .ok t' ∧
      (shortRails.get .y).range.Contains (t'.position.get (.axis .y)) := by
  obtain ⟨t', hmove, hposition⟩ := exists_goTo_eq_ok (t := homedShort) ⟨0.0, 20.0, 0.0, 0.0⟩ 5.0
    (by decide +kernel) (by decide +kernel) (by decide +kernel)
  refine ⟨t', hmove, ?_⟩
  rcases confined_after .cartesian shortRails 300.0 [.place (.fill 0.0) Axis.all]
    (m := .goTo ⟨0.0, 20.0, 0.0, 0.0⟩ 5.0) hmove .y with hstays | hwithin | hnan
  · rw [hposition] at hstays
    exact absurd hstays (by decide +kernel)
  · exact hwithin
  · rw [hposition] at hnan
    exact absurd hnan (by decide +kernel)

/-- Not every move that is accepted stays within the travel: one to a coordinate that is not a
number is accepted as well. -/
theorem not_confined_nan : ¬ ∀ (geometry : Geometry) (rails : Triple Rail) (maxVelocity : Float)
    (orders : List Order) (m : Move) (t' : Toolhead),
    (∀ a, (rails.get a).range.min ≤ (rails.get a).range.max) →
      ((fresh geometry rails maxVelocity).after orders).perform m = .ok t' → ∀ a,
        (t'.position.get (.axis a) ==
          ((fresh geometry rails maxVelocity).after orders).position.get (.axis a)) = true ∨
            (rails.get a).range.Contains (t'.position.get (.axis a)) := by
  intro hconfined
  -- A target that is not a number is neither below the one limit nor above the other.
  have hrails : ∀ a, (shortRails.get a).range.min ≤ (shortRails.get a).range.max := by
    intro a
    cases a <;> decide +kernel
  obtain ⟨t', hmove, hposition⟩ := exists_goTo_eq_ok (t := homedShort)
    ⟨0.0, 0.0 / 0.0, 0.0, 0.0⟩ 5.0 (by decide +kernel) (by decide +kernel) (by decide +kernel)
  have hnan : (t'.position.get (.axis .y)).isNaN := by
    rw [hposition]
    decide +kernel
  rcases hconfined .cartesian shortRails 300.0 [.place (.fill 0.0) Axis.all]
    (.goTo ⟨0.0, 0.0 / 0.0, 0.0, 0.0⟩ 5.0) t' hrails hmove .y with hstays | hwithin
  · exact not_beq_of_isNaN (.inl hnan) hstays
  · exact not_le_of_isNaN (.inr hnan) hwithin.1

end Toolhead

end TouchOff
