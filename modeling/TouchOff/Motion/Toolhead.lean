import TouchOff.Motion.Kinematics
import TouchOff.StatusValue

/-!
# The toolhead

The toolhead takes moves and gives them to the steppers later, all at once, when it is flushed
(`Toolhead`). What a probe session needs of it is the interface `Motion`.
-/

namespace TouchOff

/-- The commanded position with the machine that follows it. `pending` says that a move was accepted
since the steppers were last commanded. -/
structure Toolhead where
  position : Position := .fill 0.0
  kinematics : Kinematics
  maxVelocity : Float
  printTime : Float := 0.0
  pending : Bool := false
deriving DecidableEq

namespace Toolhead

/-- Reads the toolhead that the settings describe. -/
def ofSettings (settings : Settings) : Except SettingsError Toolhead := do
  let maxVelocity ← settings.number "printer" "max_velocity" (some 300.0) [.above 0.0]
  let kinematics ← Kinematics.ofSettings settings
  return { kinematics, maxVelocity }

/-- The length of a move: the distance in space or, for an extruder that moves alone, its own. -/
def moveLength (start target : Position) : Float :=
  let dx := target.x - start.x
  let dy := target.y - start.y
  let dz := target.z - start.z
  let distance := (dx * dx + dy * dy + dz * dz).sqrt
  if distance < 0.000000001 then (target.e - start.e).abs else distance

/-- What is wrong with the speed of a move. -/
def speedFault? (speed : Float) : Option MotionError :=
  if speed.isFinite && 0.0 < speed then none else some (.invalidSpeed speed)

/-- Moves to a position. A move to where the toolhead is changes nothing. -/
def moveTo (t : Toolhead) (target : Position) (speed : Float) : Except MotionError Toolhead :=
  match speedFault? speed with
  | some fault => .error fault
  | none =>
    if target.sameNumbers t.position then .ok t
    else match t.kinematics.limits.moveFault? t.position target with
      | some fault => .error fault
      | none => .ok { t with
          position := target
          printTime := t.printTime + moveLength t.position target / lesser speed t.maxVelocity
          pending := true }

/-- Moves some of the coordinates and leaves the others. -/
def jog (t : Toolhead) (new : Jog) (speed : Float) : Except MotionError Toolhead :=
  t.moveTo (t.position.merge new) speed

/-- Commands the steppers to the commanded position if a move is pending. -/
def flush (t : Toolhead) : Toolhead :=
  if t.pending then
    { t with kinematics := t.kinematics.commanded t.position.machine, pending := false }
  else t

/-- A flush leaves the commanded position. -/
@[simp] theorem position_flush (t : Toolhead) : t.flush.position = t.position := by
  rw [flush]
  split <;> rfl

/-- A flush leaves the speed limit. -/
@[simp] theorem maxVelocity_flush (t : Toolhead) : t.flush.maxVelocity = t.maxVelocity := by
  rw [flush]
  split <;> rfl

/-- A flush takes no time. -/
@[simp] theorem printTime_flush (t : Toolhead) : t.flush.printTime = t.printTime := by
  rw [flush]
  split <;> rfl

/-- After a flush no steps are due. -/
@[simp] theorem pending_flush (t : Toolhead) : t.flush.pending = false := by
  rw [flush]
  split
  · rfl
  · next hpending => exact Bool.eq_false_iff.2 hpending

/-- A flush leaves the limits in force. -/
@[simp] theorem limits_flush (t : Toolhead) : t.flush.kinematics.limits = t.kinematics.limits := by
  rw [flush]
  split <;> rfl

/-- A flush leaves the geometry. -/
@[simp] theorem geometry_flush (t : Toolhead) :
    t.flush.kinematics.geometry = t.kinematics.geometry := by
  rw [flush]
  split <;> rfl

/-- A machine that is commanded to a point gets there in the same way after a flush. -/
@[simp] theorem commanded_flush (t : Toolhead) (p : Point) :
    t.flush.kinematics.commanded p = t.kinematics.commanded p := by
  rw [flush]
  split
  · exact Kinematics.commanded_commanded _ _ _
  · rfl

/-- Only a pending move is waiting for a flush. -/
theorem flush_of_settled {t : Toolhead} (h : t.pending = false) : t.flush = t := by
  rw [flush, h, if_neg Bool.false_ne_true]

/-- A second flush does nothing. -/
@[simp] theorem flush_flush (t : Toolhead) : t.flush.flush = t.flush :=
  flush_of_settled t.pending_flush

/-- Takes a position as the current one, and the named axes as homed. -/
def place (t : Toolhead) (position : Position) (axes : List Axis) : Toolhead :=
  let flushed := t.flush
  { flushed with
    position
    kinematics := flushed.kinematics.placed position.machine axes }

/-- A toolhead that is placed is flushed first. -/
@[simp] theorem place_flush (t : Toolhead) (position : Position) (axes : List Axis) :
    t.flush.place position axes = t.place position axes := by
  rw [place, flush_flush]
  rfl

/-- The status of the toolhead. -/
def status (t : Toolhead) : StatusValue :=
  .record [
    ("position", .list (t.position.toList.map .ofFloat)),
    ("print_time", .ofFloat t.printTime),
    ("kinematics", .text t.kinematics.geometry.name)]

end Toolhead

/-- What a probe session needs of the motion system. A refused move still has a new state, so that a
system may keep an account of what it was asked. -/
class Motion (T : Type) where
  position : T → Position
  jog : T → Jog → Float → T × Except MotionError Unit
  flush : T → T
  kinematics : T → Kinematics

instance : Motion Toolhead where
  position := (·.position)
  jog t new speed :=
    match t.jog new speed with
    | .ok t' => (t', .ok ())
    | .error fault => (t, .error fault)
  flush := Toolhead.flush
  kinematics := (·.kinematics)

end TouchOff
