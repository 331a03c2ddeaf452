import TouchOff.Command.Reader
import TouchOff.Offset
import TouchOff.Probe.Station
import TouchOff.Settings.Reader

/-!
# The printer

The printer joins the settings, the console, the toolhead and, if it has one, the probe (`Printer`).
It is set up from the text of its settings (`Printer.ofText`) and runs command lines
(`Printer.runLine`): each line succeeds or is answered with one error.
-/

namespace TouchOff

/-- A printer: what its parts work on, the offset of the commanded coordinates, its probe if it has
one, and the session that runs. -/
structure Printer where
  bench : Bench Toolhead Settings
  offset : Offset := {}
  station : Option Station
  session : Option (Session Purpose) := none
deriving DecidableEq

namespace Printer

/-- The commands of every printer. -/
def hostCommands : List (String × Handler × Option String) := [
  ("HELP", .help, some "Report the list of available extended G-Code commands"),
  ("GET_POSITION", .getPosition,
    some "Return information on the current location of the toolhead"),
  ("SET_KINEMATIC_POSITION", .setKinematicPosition, some "Force a low-level kinematic position"),
  ("SET_GCODE_OFFSET", .setOffset, some "Set a virtual offset to g-code positions")]

/-- Makes the probe ready if the settings have a section for it. -/
def installStation (settings : Settings) (console : Console Handler) :
    Except Fault (Console Handler × Option Station) :=
  if settings.hasSection "belt_probe" then
    match Station.install settings console with
    | (console, .ok station) => .ok (console, some station)
    | (_, .error fault) => .error fault
  else .ok (console, none)

/-- Sets up the printer that the settings describe. -/
def ofSettings (settings : Settings) : Except Fault Printer :=
  match Toolhead.ofSettings settings with
  | .error cause => .error (.settings cause)
  | .ok toolhead =>
    match Registry.registerAll .empty hostCommands with
    | .error cause => .error (.command cause)
    | .ok registry =>
      match installStation settings { registry } with
      | .error fault => .error fault
      | .ok (console, station) =>
        .ok { bench := { console, toolhead, status := { axis := .y }, store := settings }, station }

/-- Sets up the printer that a text of settings describes. -/
def ofText (file : Option String) (text : String) : Except Fault Printer :=
  match Settings.read { file } text with
  | (settings, .ok _) => ofSettings settings
  | (_, .error cause) => .error (.settings cause)

/-- Whether a session runs. -/
def inSession (p : Printer) : Bool :=
  p.session.any (·.active)

/-- Writes an information on the console. -/
def inform (p : Printer) (message : String) : Printer :=
  { p with bench := p.bench.inform message }

/-- A text filled up with blanks on the right to a width. -/
def padded (width : Nat) (s : String) : String :=
  s ++ .ofList (List.replicate (width - s.length) ' ')

/-- Lists the commands that have a line of help. -/
def help (p : Printer) : Printer :=
  p.inform ("\n".intercalate ("Available extended commands:" ::
    p.bench.console.registry.helpLines.map fun (name, text) => padded 22 name ++ ": " ++ text))

/-- Four coordinates as the operator reads them. -/
def positionText (q : Position) : String :=
  " ".intercalate (Channel.all.map fun c : Channel => c.letter ++ ":" ++ fixed 6 (q.get c))

/-- Tells the operator the position as the steppers, the machine and commands have it. The steppers
are brought up to date first. -/
def tellPosition (p : Printer) : Printer :=
  let toolhead := p.bench.toolhead.flush
  let kinematics := toolhead.kinematics
  let eachStepper := fun text : Stepper → String =>
    " ".intercalate (kinematics.steppers.toList.map fun s => s.name ++ ":" ++ text s)
  let point := kinematics.resolved
  { p with bench := { p.bench with toolhead } }.inform
    ("mcu: " ++ eachStepper (toString ·.count) ++
      "\nstepper: " ++ eachStepper (fixed 6 ·.position) ++
      "\nkinematic: " ++
      " ".intercalate (Axis.all.map fun a : Axis => a.letter ++ ":" ++ fixed 6 (point.get a)) ++
      "\ntoolhead: " ++ positionText toolhead.position ++
      "\ngcode base: " ++ positionText p.offset.origin)

/-- The values that a command gives for axes, put into a position, and the axes it names. -/
def namedAxes (command : Command) :
    List Axis → Position → Except CommandError (Position × List Axis)
  | [], position => .ok (position, [])
  | a :: rest, position =>
    match command.number? a.letter with
    | .error cause => .error cause
    | .ok none => namedAxes command rest position
    | .ok (some value) =>
      match namedAxes command rest (position.set (.axis a) value) with
      | .ok (position, axes) => .ok (position, a :: axes)
      | .error cause => .error cause

/-- Takes the position that a command gives as the current one. The axes it names are homed, or all
of them if it names none. -/
def setKinematicPosition (p : Printer) (command : Command) : Printer × Except Fault Unit :=
  match namedAxes command Axis.all p.bench.toolhead.position with
  | .error cause => (p, .error (.command cause))
  | .ok (position, axes) =>
    let toolhead := p.bench.toolhead.place position (if axes.isEmpty then Axis.all else axes)
    ({ p with bench := { p.bench with toolhead } }, .ok ())

/-- Takes the offset that a command gives. -/
def setOffset (p : Printer) (command : Command) : Printer × Except Fault Unit :=
  let (offset, result) := p.offset.apply command
  ({ p with offset }, result.mapError .command)

/-- Keeps a session that was started. -/
def keeping (p : Printer) : Bench Toolhead Settings × Except Fault (Session Purpose) →
    Printer × Except Fault Unit
  | (bench, .ok session) => ({ p with bench, session := some session }, .ok ())
  | (bench, .error fault) => ({ p with bench }, .error fault)

/-- Does what a command of the probe asks for. -/
def runProbe (p : Printer) (action : ProbeAction) (command : Command) :
    Printer × Except Fault Unit :=
  match p.station with
  | none => (p, .error (.command .noProbe))
  | some station =>
    match action with
    | .probe => p.keeping (station.probe command p.bench)
    | .calibrateEndstop => p.keeping (station.calibrate command p.bench)
    | .applyOffset =>
      let (bench, result) := station.applyOffset p.offset.origin.y p.bench
      ({ p with bench }, result)

/-- Does what a command of the running session asks for. A session that has ended is let go. -/
def runSession (p : Printer) (action : SessionAction) (command : Command) :
    Printer × Except Fault Unit :=
  match p.session with
  | none => (p, .error .noSession)
  | some session =>
    let (session, bench, result) := session.handle action command p.bench
    ({ p with bench, session := if session.active then some session else none }, result)

/-- Does what a command asks for. -/
def dispatch (p : Printer) (command : Command) : Printer × Except Fault Unit :=
  match p.bench.console.registry.lookup command.name with
  | none => (p, .error (.command (.unknown command.name)))
  | some .help => (p.help, .ok ())
  | some .getPosition => (p.tellPosition, .ok ())
  | some .setKinematicPosition => p.setKinematicPosition command
  | some .setOffset => p.setOffset command
  | some (.probe action) => p.runProbe action command
  | some (.session action) => p.runSession action command

/-- Reads a command line and does what it asks for. -/
def runText (p : Printer) (line : String) : Printer × Except Fault Unit :=
  match Command.read line with
  | .ok command => p.dispatch command
  | .error cause => (p, .error (.command cause))

/-- Runs a line and answers whether it succeeded. A failure is written on the console. A line with
nothing but blanks and a comment is passed over. -/
def runLine (p : Printer) (line : String) : Printer × Bool :=
  let text := withoutComment line
  if text.isEmpty then (p, true)
  else
    match p.runText text with
    | (p, .ok _) => (p, true)
    | (p, .error fault) =>
      ({ p with bench := { p.bench with console := p.bench.console.report fault.message } }, false)

/-- Runs the lines of a script in order. A failure does not stop it. -/
def runScript (p : Printer) (script : String) : Printer :=
  (Text.lines script).foldl (fun p line => (p.runLine line).1) p

/-- The lines that were written, and the printer without them. -/
def takeTranscript (p : Printer) : List String × Printer :=
  (p.bench.console.transcript,
    { p with bench := { p.bench with console := p.bench.console.cleared } })

/-- The status of the printer. -/
def status (p : Printer) : StatusValue :=
  .record ([("toolhead", p.bench.toolhead.status), ("gcode_move", p.offset.status)] ++
    if p.station.isSome then [("belt_probe", p.bench.status.value)] else [])

/-- The changes of the settings that wait, as a text. -/
def pendingText (p : Printer) : String :=
  p.bench.store.pendingText

end Printer

end TouchOff
