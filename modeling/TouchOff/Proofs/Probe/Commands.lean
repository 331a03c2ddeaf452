import TouchOff.Probe.Session

/-!
# The commands of a session

The four commands that come and go with a session, by name, with what each of them asks for and its
line of help (`Axis.sessionCommands`). Only the last name tells the axis. They are listed here as
the operator knows them; that a session registers these and takes these out again is a theorem
(`ProbeSettings.commands_eq`, `ProbeSettings.commandNames_eq`).
-/

namespace TouchOff

namespace Axis

/-- The command that moves an axis step by step. -/
def testName : Axis → String
  | .x => "TESTX"
  | .y => "TESTY"
  | .z => "TESTZ"

/-- The names of the commands of a session on an axis, in the order in which they are registered. -/
def sessionNames (a : Axis) : List String :=
  ["ACCEPT", "NEXT", "ABORT", a.testName]

/-- These commands, with what they ask for and the line of help of those that have one. -/
def sessionCommands (a : Axis) : List (String × Handler × Option String) := [
  ("ACCEPT", .session .accept, some "Accept the current position"),
  ("NEXT", .session .accept, none),
  ("ABORT", .session .abort, some "Abort belt probing tool"),
  (a.testName, .session .test, some "Move to a new test position")]

/-- The names of the commands are in upper case, so they are kept as they are. -/
theorem upper_sessionNames (a : Axis) : ∀ name ∈ a.sessionNames, Text.upper name = name := by
  cases a <;> decide

/-- No two of the commands have one name. -/
theorem nodup_sessionNames (a : Axis) : a.sessionNames.Nodup := by
  cases a <;> decide

/-- The commands are those of the four names. -/
theorem map_sessionCommands (a : Axis) : a.sessionCommands.map (·.1) = a.sessionNames := rfl

/-- The names that the table of commands has are the four as they are written. -/
theorem map_upper_sessionCommands (a : Axis) :
    (a.sessionCommands.map fun command => Text.upper command.1) = a.sessionNames :=
  List.map_congr_left fun _ hcommand => a.upper_sessionNames _ (List.mem_map_of_mem hcommand)

end Axis

namespace ProbeSettings

variable (p : ProbeSettings)

/-- The axis is told by the name of the command that moves it. -/
theorem testCommand_eq : p.testCommand = p.axis.testName := by
  rw [testCommand]
  cases p.axis <;> rfl

/-- A session registers the four commands of its axis. -/
theorem commands_eq : p.commands = p.axis.sessionCommands := by
  rw [commands, testCommand_eq]
  rfl

/-- A session takes the four commands of its axis out again. -/
theorem commandNames_eq : p.commandNames = p.axis.sessionNames := by
  rw [commandNames, commands_eq, Axis.map_sessionCommands]

end ProbeSettings

end TouchOff
