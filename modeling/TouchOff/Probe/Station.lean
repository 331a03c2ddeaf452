import TouchOff.Probe.Session
import TouchOff.Settings.Pending

/-!
# The probe of a printer

A printer with a `[belt_probe]` section has a probe (`Station`), with which the operator finds the
height of the belt. On a belt printer the outcome of a session, or an offset found otherwise, can be
turned into a new position of the endstop, which waits with the other changes of the settings
(`Purpose`).
-/

namespace TouchOff

/-- What the outcome of a session is for: the operator wants to know the position of an axis, or to
calibrate an endstop from its present position. -/
inductive Purpose where
  | report (axis : Axis)
  | calibrate (endstop : Float)
deriving DecidableEq

/-- What the operator is told about a new position of the endstop. -/
def endstopNotice (endstop : Float) : String :=
  "stepper_y: position_endstop: " ++ fixed 3 endstop ++
    "\nThe SAVE_CONFIG command will update the printer config file" ++
    "\nwith the above and restart the printer."

/-- Notes a new position of the endstop, with the digits that the operator is told. -/
def Settings.recordEndstop (s : Settings) (endstop : Float) : Settings :=
  s.record "stepper_y" "position_endstop" (fixed 3 endstop)

instance : Completion Purpose Settings where
  messages
    | .report axis, some point => [axis.letter ++ " position is " ++ fixed 3 (point.get axis)]
    | .calibrate endstop, some point => [endstopNotice (endstop - point.y)]
    | _, none => []
  record
    | .calibrate endstop, some point, settings => settings.recordEndstop (endstop - point.y)
    | _, _, settings => settings

/-- The probe: how a session probes unless it is told otherwise, and the position of the endstop of
the probed axis, if that is set. -/
structure Station where
  defaults : ProbeSettings
  endstop : Option Float
deriving DecidableEq

namespace Station

/-- The command of every probe. -/
def probeCommand : String × Handler × Option String :=
  ("BELT_PROBE", .probe .probe, some "Start manual probe helper script")

/-- The commands of the probe of a belt printer beside that one. -/
def beltCommands : List (String × Handler × Option String) := [
  ("Y_ENDSTOP_CALIBRATE", .probe .calibrateEndstop, some "Calibrate a Y endstop"),
  ("Y_OFFSET_APPLY_ENDSTOP", .probe .applyOffset, some "Adjust the Y endstop_position")]

/-- Reads how sessions probe. -/
def defaultsOfSettings (settings : Settings) : Except SettingsError ProbeSettings := do
  let usual : ProbeSettings := {}
  let speed ← settings.number "belt_probe" "speed" (some usual.speed) [.above 0.0]
  let reach ← settings.number "belt_probe" "bisect_max" (some usual.reach) [.above 0.0]
  let clearance ← settings.number "belt_probe" "bob_minimum" (some usual.clearance) [.atLeast 0.0]
  return { usual with speed, reach, clearance }

/-- Reads the probe, and whether it is that of a belt printer. -/
def ofSettings (settings : Settings) : Except SettingsError (Station × Bool) := do
  let defaults ← defaultsOfSettings settings
  let kinematics ← settings.text "printer" "kinematics"
  let endstop ← settings.number? "stepper_y" "position_endstop"
  return (⟨defaults, endstop⟩, Text.lower kinematics == "belt")

/-- Registers commands in order, up to the first name that is taken. -/
def registerEach (console : Console Handler) :
    List (String × Handler × Option String) → Console Handler × Except Fault Unit
  | [] => (console, .ok ())
  | (name, handler, help) :: rest =>
    match console.registry.register name handler help with
    | .ok registry => registerEach { console with registry } rest
    | .error cause => (console, .error (.command cause))

/-- Makes the probe that the settings describe ready: its commands are registered, which are fewer
on a printer that is not a belt printer. -/
def install (settings : Settings) (console : Console Handler) :
    Console Handler × Except Fault Station :=
  match ofSettings settings with
  | .error cause => (console, .error (.settings cause))
  | .ok (station, isBelt) =>
    let (console, result) :=
      registerEach console (if isBelt then probeCommand :: beltCommands else [probeCommand])
    match result with
    | .error fault => (console, .error fault)
    | .ok _ =>
      (if isBelt then console else console.inform "Use MANUAL_PROBE for other kinematics",
        .ok station)

variable {T : Type} [Motion T]

/-- Starts a session at the speed that the command names or, if it names none, the usual one. -/
def start (s : Station) (command : Command) (purpose : Purpose) (b : Bench T Settings) :
    Bench T Settings × Except Fault (Session Purpose) :=
  match command.number "SPEED" (some s.defaults.speed) none (some 0.0) with
  | .error cause => (b, .error (.command cause))
  | .ok speed => Session.begin { s.defaults with speed } purpose b

/-- Starts a session that reports the position it finds. -/
def probe (s : Station) (command : Command) (b : Bench T Settings) :
    Bench T Settings × Except Fault (Session Purpose) :=
  s.start command (.report s.defaults.axis) b

/-- Starts a session that calibrates the endstop. -/
def calibrate (s : Station) (command : Command) (b : Bench T Settings) :
    Bench T Settings × Except Fault (Session Purpose) :=
  match s.endstop with
  | none => (b, .error (.command .noEndstop))
  | some endstop => s.start command (.calibrate endstop) b

/-- Takes an offset of the axis into the position of the endstop. -/
def applyOffset (s : Station) (offset : Float) (b : Bench T Settings) :
    Bench T Settings × Except Fault Unit :=
  if offset == 0.0 then (b.inform "Nothing to do: Y Offset is 0", .ok ())
  else match s.endstop with
    | none => (b, .error (.command .noEndstop))
    | some endstop =>
      ({ b.inform (endstopNotice (endstop - offset)) with
          store := b.store.recordEndstop (endstop - offset) }, .ok ())

end Station

end TouchOff
