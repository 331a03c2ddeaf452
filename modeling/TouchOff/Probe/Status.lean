import TouchOff.Axis
import TouchOff.StatusValue

/-!
# Status of the probe

What a status panel is told about the probe: whether a session runs, the position of the probed axis
and the tested positions next to it (`ProbeStatus`).
-/

namespace TouchOff

/-- The last report of a session on an axis. -/
structure ProbeStatus where
  axis : Axis
  active : Bool := false
  position : Option Float := none
  lower : Option Float := none
  upper : Option Float := none
deriving DecidableEq

namespace ProbeStatus

/-- No session runs. -/
def reset (s : ProbeStatus) : ProbeStatus :=
  { axis := s.axis }

/-- A session reports its position and neighbours. -/
def update (s : ProbeStatus) (position : Float) (lower upper : Option Float) : ProbeStatus :=
  { s with active := true, position := some position, lower, upper }

/-- The letter that the names of an axis' values start with. -/
def key : Axis → String
  | .x => "x"
  | .y => "y"
  | .z => "z"

/-- The status as a panel reads it. -/
def value (s : ProbeStatus) : StatusValue :=
  .record [
    ("is_active", .flag s.active),
    (key s.axis ++ "_position", .ofFloat? s.position),
    (key s.axis ++ "_position_lower", .ofFloat? s.lower),
    (key s.axis ++ "_position_upper", .ofFloat? s.upper)]

end ProbeStatus

end TouchOff
