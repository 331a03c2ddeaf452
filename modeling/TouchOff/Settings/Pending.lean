import TouchOff.Settings.Basic
import TouchOff.Text.Case

/-!
# Pending changes

Values found while the printer runs wait here until they are written back to the settings file
(`record`). Their text (`pendingText`) is itself a text of settings.
-/

namespace TouchOff

/-- The text of options, a line each. -/
def optionsText : List (String × String) → String
  | [] => ""
  | (option, value) :: rest => option ++ " = " ++ value ++ "\n" ++ optionsText rest

/-- The text of sections: a header, the options and an empty line for each. -/
def sectionsText : List (String × Table String) → String
  | [] => ""
  | (sect, options) :: rest =>
    "[" ++ sect ++ "]\n" ++ optionsText options.entries ++ "\n" ++ sectionsText rest

namespace Settings

/-- Notes a change of an option. The value read from the file stays in use. -/
def record (s : Settings) (sect option value : String) : Settings :=
  { s with pending := s.pending.assigned (Text.lower sect) (Text.lower option) value }

/-- The pending changes as a text of settings, sections and options in ascending order. -/
def pendingText (s : Settings) : String :=
  sectionsText s.pending.entries

end Settings

end TouchOff
