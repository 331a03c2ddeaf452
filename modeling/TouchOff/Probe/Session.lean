import TouchOff.Console
import TouchOff.Handler
import TouchOff.Probe.Admission
import TouchOff.Probe.Fault
import TouchOff.Probe.History
import TouchOff.Probe.Resolved
import TouchOff.Probe.Status
import TouchOff.Probe.Step

/-!
# Probe sessions

In a session the operator brings one axis down to a reference, step by step, each step halving the
room between the positions tested so far, and then accepts the position or gives up. A session
(`Session`) works on a bench (`Bench`): the console, the toolhead, the status and the guard, which
it shares with the rest of the printer. It starts as a whole or not at all (`Session.begin`), and
ends once (`Session.finalize`), by an accepted position, by a refused one, by giving up or by a
refused move.
-/

namespace TouchOff

/-- What a session works on and does not own. `store` is what its outcome is recorded in. -/
structure Bench (T σ : Type) where
  console : Console Handler := {}
  toolhead : T
  status : ProbeStatus
  guard : Guard := {}
  store : σ
deriving DecidableEq

namespace Bench

variable {T σ : Type}

/-- Writes an information on the console. -/
def inform (b : Bench T σ) (message : String) : Bench T σ :=
  { b with console := b.console.inform message }

end Bench

/-- What is done with the outcome of a session, which is the resolved position if the session was a
success: informations for the operator, and an entry in the store. -/
class Completion (π σ : Type) where
  messages : π → Option Point → List String
  record : π → Option Point → σ → σ

/-- How an axis is probed: the speed of its moves, the greatest relative step, and how far above a
target the axis has to be before it goes down to it. -/
structure ProbeSettings where
  axis : Axis := .y
  speed : Float := 5.0
  reach : Float := 0.2
  clearance : Float := 0.5
deriving DecidableEq

namespace ProbeSettings

/-- The name of the command that moves the axis. -/
def testCommand (p : ProbeSettings) : String :=
  "TEST" ++ p.axis.letter

/-- The commands that are there while a session runs. -/
def commands (p : ProbeSettings) : List (String × Handler × Option String) := [
  ("ACCEPT", .session .accept, some "Accept the current position"),
  ("NEXT", .session .accept, none),
  ("ABORT", .session .abort, some "Abort belt probing tool"),
  (p.testCommand, .session .test, some "Move to a new test position")]

/-- The names of these commands. -/
def commandNames (p : ProbeSettings) : List String :=
  p.commands.map (·.1)

/-- Moves the axis to a target. An axis that is less than the clearance above the target is first
lifted to that height. The first refused move ends it. -/
def approach {T : Type} [Motion T] (p : ProbeSettings) (target : Float) (t : T) :
    T × Except MotionError Unit :=
  let height := target + p.clearance
  let descend := fun t : T => Motion.jog t (.only (.axis p.axis) target) p.speed
  if (Motion.position t).get (.axis p.axis) < height then
    match Motion.jog t (.only (.axis p.axis) height) p.speed with
    | (lifted, .ok _) => descend lifted
    | (stuck, .error fault) => (stuck, .error fault)
  else descend t

end ProbeSettings

/-- A probe session. `purpose` says what is done with its outcome. -/
structure Session (π : Type) where
  settings : ProbeSettings
  history : List Float := []
  start : Position
  cache : ResolvedCache := {}
  active : Bool := true
  lease : Lease
  purpose : π
deriving DecidableEq

/-- A tested position as the operator reads it. -/
def neighbourText : Option Float → String
  | none => "??????"
  | some x => fixed 3 x

namespace Session

variable {π T σ : Type} [Motion T]

/-- Where the probed axis is. -/
def resolve (s : Session π) (b : Bench T σ) : Float × Session π × Bench T σ :=
  let (point, cache, toolhead) := s.cache.resolve b.toolhead
  (point.get s.settings.axis, { s with cache }, { b with toolhead })

/-- Tells the operator and the status where the axis is and which tested positions are next to it,
and warns if it is still where it was before the move, at `previous`. -/
def report (s : Session π) (previous : Option Float) (b : Bench T σ) : Session π × Bench T σ :=
  let (pos, s, b) := s.resolve b
  let b :=
    if previous.any (· == pos) then
      b.inform "WARNING: No change in position (reached stepper resolution)"
    else b
  let (lower, upper) := History.around s.history pos
  let line := s.settings.axis.letter ++ " position: " ++ neighbourText lower ++ " --> " ++
    fixed 3 pos ++ " <-- " ++ neighbourText upper
  (s, { b with status := b.status.update pos lower upper }.inform line)

/-- Starts a session: it is admitted, its commands are registered, and the operator is told where
the axis is. If it is not admitted or a name is taken, it does not start: the commands that were
registered are taken out again, and the lease is given back. -/
def begin (settings : ProbeSettings) (purpose : π) (b : Bench T σ) :
    Bench T σ × Except Fault (Session π) :=
  match b.guard.acquire with
  | (guard, none) => ({ b with guard }, .error .sessionConflict)
  | (guard, some lease) =>
    match b.console.registry.enlist settings.commands with
    | (registry, .error cause) =>
      ({ b with console := { b.console with registry }, guard := (lease.release guard).2 },
        .error (.command cause))
    | (registry, .ok _) =>
      let b := { b with guard, console := { b.console with registry } }.inform
        ("Starting belt probe. Use " ++ settings.testCommand ++
          " to adjust position.\nFinish with ACCEPT or ABORT command.")
      let s : Session π := { settings, start := Motion.position b.toolhead, lease, purpose }
      let (s, b) := s.report none b
      (b, .ok s)

/-- The resolved position if the session was a success. -/
def outcome (s : Session π) (success : Bool) (b : Bench T σ) :
    Option Point × Session π × Bench T σ :=
  if success then
    let (point, cache, toolhead) := s.cache.resolve b.toolhead
    (some point, { s with cache }, { b with toolhead })
  else (none, s, b)

/-- Ends the session: the status is reset, the session's commands are taken out, its purpose is
served, and the lease is given up. A session that has ended stays as it is. -/
def finalize [Completion π σ] (s : Session π) (success : Bool) (b : Bench T σ) :
    Session π × Bench T σ :=
  if s.active then
    let (point, s, b) := s.outcome success b
    let registry := b.console.registry.unregisterAll s.settings.commandNames
    let (lease, guard) := s.lease.release b.guard
    ({ s with active := false, lease },
      { b with
        status := b.status.reset
        console := { b.console with registry }.informAll (Completion.messages σ s.purpose point)
        guard
        store := Completion.record s.purpose point b.store })
  else (s, b)

/-- Whether a commanded position can be accepted: the probed axis is below where it started, and the
other coordinates are where they started. -/
def canAccept (s : Session π) (position : Position) : Bool :=
  let probed := Channel.axis s.settings.axis
  Channel.all.all (fun c => c == probed || position.get c == s.start.get c) &&
    !(s.start.get probed ≤ position.get probed : Bool)

/-- Ends the session with the current position if that can be accepted, else without one. -/
def accept [Completion π σ] (s : Session π) (b : Bench T σ) : Session π × Bench T σ :=
  if s.canAccept (Motion.position b.toolhead) then s.finalize true b
  else s.finalize false (b.inform ("Belt probe failed! Use " ++ s.settings.testCommand ++
    " commands to position the\nnozzle prior to running ACCEPT."))

/-- Records where the axis is, moves it to the next position and reports. A refused move ends the
session. The answer is the position that the axis was sent to. -/
def advance [Completion π σ] (s : Session π) (step : Step) (b : Bench T σ) :
    Session π × Bench T σ × Except Fault Float :=
  if s.active then
    let (pos, s, b) := s.resolve b
    let index := History.rank s.history pos
    let s := { s with history := History.recorded s.history pos }
    let (lower, upper) := History.beside s.history index
    let target := step.target pos lower upper s.settings.reach
    match s.settings.approach target b.toolhead with
    | (toolhead, .error fault) =>
      let (s, b) := s.finalize false { b with toolhead }
      (s, b, .error (.motion fault))
    | (toolhead, .ok _) =>
      let (s, b) := s.report (if target != pos then some pos else none) { b with toolhead }
      (s, b, .ok target)
  else (s, b, .error .noSession)

/-- Reads the step that a command asks for. -/
def stepOf (s : Session π) (command : Command) : Except CommandError Step :=
  match command.text s.settings.axis.letter with
  | .ok text => Step.read text
  | .error cause => .error cause

/-- Does what a command of the session asks for. -/
def handle [Completion π σ] (s : Session π) (action : SessionAction) (command : Command)
    (b : Bench T σ) : Session π × Bench T σ × Except Fault Unit :=
  if s.active then
    match action with
    | .accept =>
      let (s, b) := s.accept b
      (s, b, .ok ())
    | .abort =>
      let (s, b) := s.finalize false b
      (s, b, .ok ())
    | .test =>
      match s.stepOf command with
      | .error cause => (s, b, .error (.command cause))
      | .ok step =>
        let (s, b, result) := s.advance step b
        (s, b, result.map fun _ => ())
  else (s, b, .error .noSession)

end Session

end TouchOff
