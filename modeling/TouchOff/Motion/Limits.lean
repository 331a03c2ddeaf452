import TouchOff.Axis
import TouchOff.Motion.Rail

/-!
# Travel limits

An axis may move once it is homed, and then within the limits of its travel (`Limits`). The ways in
which a move can be refused are the causes `MotionError`.
-/

namespace TouchOff

/-- Why a move is refused. -/
inductive MotionError where
  | notHomed (axis : Axis)
  | outOfRange (axis : Axis) (target : Float) (range : Range)
  | invalidSpeed (speed : Float)
deriving DecidableEq

namespace MotionError

/-- The text for the operator. -/
def message : MotionError → String
  | notHomed axis => "Must home axis first: " ++ axis.letter
  | outOfRange axis target range =>
    "Move out of range: " ++ axis.letter ++ "=" ++ fixed 3 target ++ " (limits " ++
      fixed 3 range.min ++ " to " ++ fixed 3 range.max ++ ")"
  | invalidSpeed speed => "Invalid move speed " ++ shortest speed

end MotionError

/-- The limits in force for each axis. Limits that leave no room stand for an axis that is not
homed. -/
abbrev Limits := Triple Range

namespace Limits

/-- The limits of an axis that is not homed. -/
def unhomedRange : Range := ⟨1.0, -1.0⟩

/-- No axis is homed. -/
def unhomed : Limits := .fill unhomedRange

/-- Whether an axis is homed. -/
def isHomed (l : Limits) (a : Axis) : Bool :=
  (l.get a).min ≤ (l.get a).max

/-- What is wrong with a move of one axis: nothing if the axis keeps its place; else the axis has to
be homed and the target within its limits. -/
def fault? (l : Limits) (a : Axis) (start target : Float) : Option MotionError :=
  if start == target then none
  else if !l.isHomed a then some (.notHomed a)
  else if (l.get a).isExceededBy target then some (.outOfRange a target (l.get a))
  else none

/-- What is wrong with a move: the fault of the first axis that has one. -/
def moveFault? (l : Limits) (start target : Position) : Option MotionError :=
  Axis.all.findSome? fun a => l.fault? a (start.get (.axis a)) (target.get (.axis a))

end Limits

end TouchOff
