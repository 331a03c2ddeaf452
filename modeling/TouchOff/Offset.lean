import TouchOff.Axis
import TouchOff.Command.Basic
import TouchOff.StatusValue

/-!
# The offset of commanded coordinates

The operator can shift the origin of the commanded coordinates (`Offset`), by absolute values or by
adjustments of the values in force.
-/

namespace TouchOff

/-- Where the origin of the commanded coordinates lies. -/
structure Offset where
  origin : Position := .fill 0.0
deriving DecidableEq

namespace Offset

/-- The new value for a coordinate: the one given for it, else the one in force with the adjustment
given for it, if there is one. -/
def changed (command : Command) (c : Channel) (value : Float) : Except CommandError Float :=
  match command.number? c.letter with
  | .error cause => .error cause
  | .ok (some absolute) => .ok absolute
  | .ok none =>
    match command.number? (c.letter ++ "_ADJUST") with
    | .error cause => .error cause
    | .ok (some adjustment) => .ok (value + adjustment)
    | .ok none => .ok value

/-- Takes a command's values for coordinates one after the other. The first value that cannot be
used ends it; the coordinates before it keep their new values. -/
def applyTo (command : Command) : List Channel → Offset → Offset × Except CommandError Unit
  | [], o => (o, .ok ())
  | c :: rest, o =>
    match changed command c (o.origin.get c) with
    | .ok value => applyTo command rest ⟨o.origin.set c value⟩
    | .error cause => (o, .error cause)

/-- Takes a command's values for all coordinates. -/
def apply (o : Offset) (command : Command) : Offset × Except CommandError Unit :=
  applyTo command Channel.all o

/-- The status of the offset. -/
def status (o : Offset) : StatusValue :=
  .record [("homing_origin", .record [
    ("x", .ofFloat o.origin.x), ("y", .ofFloat o.origin.y),
    ("z", .ofFloat o.origin.z), ("e", .ofFloat o.origin.e)])]

end Offset

end TouchOff
