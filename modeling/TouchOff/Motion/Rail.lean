import TouchOff.Number.Whole
import TouchOff.Settings.Query

/-!
# Steppers and rails

A stepper moves in whole steps, so the position it realises is a whole multiple of its step distance
(`Stepper`). A rail is a stepper with the limits of its travel (`Rail`), read from the settings of
one axis.
-/

namespace TouchOff

/-- A stepper motor: the distance of one step, and the steps it is away from its zero. -/
structure Stepper where
  name : String
  stepDistance : Float
  count : Int := 0
deriving DecidableEq

namespace Stepper

/-- The position that the step count realises. -/
def position (s : Stepper) : Float :=
  Float.ofInt s.count * s.stepDistance

/-- Commands the stepper to the step nearest to a position. -/
def commanded (s : Stepper) (position : Float) : Stepper :=
  { s with count := nearestWhole (position / s.stepDistance) }

end Stepper

/-- The limits of travel, both inclusive. -/
structure Range where
  min : Float
  max : Float
deriving DecidableEq

namespace Range

/-- Whether a position is beyond one of the limits. -/
def isExceededBy (r : Range) (position : Float) : Bool :=
  position < r.min || r.max < position

end Range

/-- A stepper with the limits of its travel, and the position of its endstop if that is set. -/
structure Rail where
  stepper : Stepper
  range : Range
  endstop : Option Float
deriving DecidableEq

namespace Rail

/-- Reads the rail of a section. The endstop, if it is set, has to lie within the travel. -/
def ofSettings (settings : Settings) (sect : String) : Except SettingsError Rail := do
  let stepDistance ← settings.number sect "step_distance" (some 0.0125) [.above 0.0]
  let endstop ← settings.number? sect "position_endstop"
  let min ← settings.number sect "position_min" (some 0.0)
  let max ← settings.number sect "position_max" (some 200.0) [.atLeast min]
  if endstop.any (Range.isExceededBy ⟨min, max⟩) then throw (.endstopOutOfRange sect)
  return { stepper := { name := sect, stepDistance }, range := { min, max }, endstop }

/-- Commands the stepper to a position. -/
def commanded (r : Rail) (position : Float) : Rail :=
  { r with stepper := r.stepper.commanded position }

end Rail

end TouchOff
