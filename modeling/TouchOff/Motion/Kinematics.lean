import TouchOff.Motion.Limits
import TouchOff.Number.Circle

/-!
# Kinematics

How the steppers' positions and the machine coordinates belong together (`Geometry`). On a belt
printer the gantry travels along a tilted line over the belt, so a change of height drags the nozzle
along the belt, and the belt makes up for it. A machine is a geometry with its three rails and the
limits in force (`Kinematics`).
-/

namespace TouchOff

/-- The sine and the cosine of the angle between gantry and belt. -/
structure Tilt where
  sine : Float
  cosine : Float
deriving DecidableEq

/-- The tilt of an angle in degrees. -/
def Tilt.ofDegrees (angle : Float) : Tilt where
  sine := TouchOff.sine (radians angle)
  cosine := TouchOff.cosine (radians angle)

/-- How the axes are driven: each by its own stepper, or over a tilted gantry. -/
inductive Geometry where
  | cartesian
  | belt (tilt : Tilt)
deriving DecidableEq

namespace Geometry

/-- The name of the geometry. -/
def name : Geometry → String
  | cartesian => "cartesian"
  | belt _ => "belt"

/-- The positions of the steppers that put the nozzle at a point. -/
def stepperTargets : Geometry → Point → Point
  | cartesian, p => p
  | belt tilt, p =>
    let gantry := p.z / tilt.sine
    ⟨p.x, p.y + gantry * tilt.cosine, gantry⟩

/-- Where the nozzle is when the steppers are at given positions. -/
def resolve : Geometry → Point → Point
  | cartesian, s => s
  | belt tilt, s => ⟨s.x, s.y - s.z * tilt.cosine, s.z * tilt.sine⟩

end Geometry

/-- A machine: its geometry, its rails and the limits in force. -/
structure Kinematics where
  geometry : Geometry
  rails : Triple Rail
  limits : Limits := .unhomed
deriving DecidableEq

namespace Kinematics

/-- The steppers in the order of the axes. -/
def steppers (k : Kinematics) : Triple Stepper :=
  k.rails.map (·.stepper)

/-- The steppers' positions by their names. -/
def snapshot (k : Kinematics) : Table Float :=
  .ofList (k.steppers.map fun s => (s.name, s.position)).toList

/-- Where the nozzle is when the named steppers are at given positions; one that is not named is at
zero. -/
def resolve (k : Kinematics) (positions : Table Float) : Point :=
  k.geometry.resolve (k.steppers.map fun s => (positions.get? s.name).getD 0.0)

/-- Where the nozzle is. -/
def resolved (k : Kinematics) : Point :=
  k.resolve k.snapshot

/-- Commands the steppers so that the nozzle goes to a point. -/
def commanded (k : Kinematics) (p : Point) : Kinematics :=
  { k with rails := k.rails.zipWith Rail.commanded (k.geometry.stepperTargets p) }

/-- Where the steppers are commanded to go does not depend on where they were before. -/
theorem commanded_commanded (k : Kinematics) (p q : Point) :
    (k.commanded p).commanded q = k.commanded q := rfl

/-- Puts the limits of an axis' rail in force. -/
def homed (k : Kinematics) (a : Axis) : Kinematics :=
  { k with limits := k.limits.set a (k.rails.get a).range }

/-- Takes a point as the place of the nozzle, and the named axes as homed. -/
def placed (k : Kinematics) (p : Point) (axes : List Axis) : Kinematics :=
  axes.foldl homed (k.commanded p)

/-- The angle between gantry and belt in degrees: above 0 and at most 90. -/
def angleOfSettings (settings : Settings) : Except SettingsError Float := do
  let angle ← settings.number "printer" "belt_angle" (some 45.0) [.above 0.0]
  if 90.0 < angle then throw (.angleTooLarge angle)
  return angle

/-- Reads the machine that the settings name. -/
def ofSettings (settings : Settings) : Except SettingsError Kinematics := do
  let name ← settings.choice "printer" "kinematics" ["cartesian", "belt"]
  let x ← Rail.ofSettings settings "stepper_x"
  let y ← Rail.ofSettings settings "stepper_y"
  let z ← Rail.ofSettings settings "stepper_z"
  if name == "belt" then
    let angle ← angleOfSettings settings
    return { geometry := .belt (.ofDegrees angle), rails := ⟨x, y, z⟩ }
  else return { geometry := .cartesian, rails := ⟨x, y, z⟩ }

end Kinematics

end TouchOff
