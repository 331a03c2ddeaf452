import TouchOff.Printer
import TouchOff.Proofs.Command.Registry
import TouchOff.Proofs.Probe.Commands

/-!
# The commands of the printer

Which commands a printer has at hand: those it was set up with (`permanentCommands`), and while a
session runs the commands of the session besides (`printerTable`). They are listed here by name,
with what each is handled by and its line of help, and that the parts of a printer register these is
proved of them. Registering the commands of a session and taking them out again leads from one table
to the other and back (`registerAll_sessionCommands`, `unregisterAll_sessionCommands`).
-/

namespace TouchOff

/-- The table of commands that were registered one after the other. -/
def commandTable (commands : List (String × Handler × Option String)) : Registry Handler :=
  .ofList (commands.map fun (name, handler, help) => (name, ⟨handler, help⟩))

/-- The commands that every printer has. -/
def generalCommands : List (String × Handler × Option String) := [
  ("HELP", .help, some "Report the list of available extended G-Code commands"),
  ("GET_POSITION", .getPosition,
    some "Return information on the current location of the toolhead"),
  ("SET_KINEMATIC_POSITION", .setKinematicPosition, some "Force a low-level kinematic position"),
  ("SET_GCODE_OFFSET", .setOffset, some "Set a virtual offset to g-code positions")]

/-- The commands that a printer with a probe has besides. Those of the endstop are there only on a
belt printer. -/
def stationCommands (isBelt : Bool) : List (String × Handler × Option String) :=
  ("BELT_PROBE", .probe .probe, some "Start manual probe helper script") ::
    if isBelt then [
      ("Y_ENDSTOP_CALIBRATE", .probe .calibrateEndstop, some "Calibrate a Y endstop"),
      ("Y_OFFSET_APPLY_ENDSTOP", .probe .applyOffset, some "Adjust the Y endstop_position")]
    else []

/-- The commands that are there whether a session runs or not. -/
def permanentCommands (isBelt : Bool) : List (String × Handler × Option String) :=
  generalCommands ++ stationCommands isBelt

/-- The commands of a session on the axis of a station. -/
def sessionCommands : List (String × Handler × Option String) :=
  Axis.y.sessionCommands

/-- The table of a printer, which has the commands of a session while one runs. -/
def printerTable (isBelt running : Bool) : Registry Handler :=
  commandTable (permanentCommands isBelt ++ if running then sessionCommands else [])

/-- A printer registers the commands that every printer has. -/
theorem Printer.hostCommands_eq : Printer.hostCommands = generalCommands := rfl

/-- A probe registers those that a printer with a probe has besides. -/
theorem Station.commands_eq (isBelt : Bool) :
    (if isBelt then Station.probeCommand :: Station.beltCommands else [Station.probeCommand]) =
      stationCommands isBelt := by
  cases isBelt <;> rfl

/-- Every command of the table that was made when the printer was set up is found in it under its
name, whether a session runs or not. -/
theorem get?_permanentCommands (isBelt running : Bool) :
    ∀ command ∈ permanentCommands isBelt,
      (printerTable isBelt running).get? command.1 = some ⟨command.2.1, command.2.2⟩ := by
  cases isBelt <;> cases running <;> decide

/-- The commands of a session can be registered while no session runs. -/
theorem registerAll_sessionCommands (isBelt : Bool) :
    (printerTable isBelt false).registerAll sessionCommands = .ok (printerTable isBelt true) := by
  cases isBelt <;> rfl

/-- Once the commands of a session are taken out the table is as before. -/
theorem unregisterAll_sessionCommands (isBelt : Bool) :
    (printerTable isBelt true).unregisterAll (sessionCommands.map (·.1)) =
      printerTable isBelt false := by
  cases isBelt <;> rfl

/-- Whether a command is one of a session. -/
def Handler.isSession : Handler → Bool
  | .session _ => true
  | _ => false

/-- While no session runs no name is that of a command of a session. -/
theorem isSession_of_lookup {isBelt : Bool} {name : String} {handler : Handler}
    (h : (printerTable isBelt false).lookup name = some handler) : handler.isSession = false := by
  have hall : ∀ entry ∈ (printerTable isBelt false).entries, entry.2.handler.isSession = false := by
    cases isBelt <;> decide
  rw [Registry.lookup, Option.map_eq_some_iff] at h
  obtain ⟨registered, hget, rfl⟩ := h
  exact hall _ (Table.mem_of_get? hget)

/-- The names of the commands of a session, and what each of them asks for. -/
def sessionActions : List (String × SessionAction) :=
  [("ACCEPT", .accept), ("NEXT", .accept), ("ABORT", .abort), ("TESTY", .test)]

/-- The commands of a session are at hand while one runs and at no other time. -/
theorem lookup_sessionActions (isBelt running : Bool) :
    ∀ entry ∈ sessionActions, (printerTable isBelt running).lookup entry.1 =
      if running then some (.session entry.2) else none := by
  cases isBelt <;> cases running <;> decide

/-- No other command comes or goes with a session. -/
theorem get?_printerTable (isBelt running : Bool) {name : String}
    (h : name ∉ sessionActions.map (·.1)) :
    (printerTable isBelt running).get? name = (printerTable isBelt false).get? name := by
  cases running with
  | false => rfl
  | true =>
    have hnames : ∀ other ∈ sessionCommands.map (·.1),
        Text.upper other ∈ sessionActions.map (·.1) := by
      decide
    rw [← unregisterAll_sessionCommands isBelt, Registry.get?_unregisterAll, if_neg]
    intro hname
    obtain ⟨other, hother, rfl⟩ := List.mem_map.1 hname
    exact h (hnames other hother)

end TouchOff
