/-!
# Handlers

What a command of the printer is handled by (`Handler`): a command of the printer itself, of the
probe, or of a running session.
-/

namespace TouchOff

/-- What a running session can be told to do. -/
inductive SessionAction where
  | accept
  | abort
  | test
deriving DecidableEq, Repr

/-- What the probe can be told to do. -/
inductive ProbeAction where
  | probe
  | calibrateEndstop
  | applyOffset
deriving DecidableEq, Repr

/-- What a command is handled by. -/
inductive Handler where
  | help
  | getPosition
  | setKinematicPosition
  | setOffset
  | probe (action : ProbeAction)
  | session (action : SessionAction)
deriving DecidableEq, Repr

end TouchOff
