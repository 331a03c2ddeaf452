import TouchOff.Table
import TouchOff.Number.Decimal

/-!
# Settings

The settings of a printer: options with raw text values, grouped in sections (`Sections`), as they
were read from a file, and beside them the changes that wait to be written back (`Settings`). The
ways in which settings can be unusable are the causes `SettingsError`.
-/

namespace TouchOff

/-- Raw option values by section and option. Both names are kept in lower case. -/
abbrev Sections := Table (Table String)

namespace Sections

/-- The options of a section; none if there is no such section. -/
def options (s : Sections) (sect : String) : Table String :=
  (s.get? sect).getD .empty

/-- Makes sure that a section is there. -/
def opened (s : Sections) (sect : String) : Sections :=
  s.insert sect (s.options sect)

/-- Gives an option its value, in a section that is made if it is missing. -/
def assigned (s : Sections) (sect option value : String) : Sections :=
  s.insert sect ((s.options sect).insert option value)

end Sections

/-- What a line of settings can be faulted for. -/
inductive SyntaxFault where
  | emptySection
  | outsideSection (line : String)
  | noSeparator (sect line : String)
  | emptyOption (sect : String)
deriving DecidableEq, Repr

namespace SyntaxFault

/-- The text for the operator. -/
def message : SyntaxFault → String
  | emptySection => "Empty section name found"
  | outsideSection line => "Line outside of section: " ++ line
  | noSeparator sect line => "Malformed line in section [" ++ sect ++ "]: " ++ line
  | emptyOption sect => "Empty key found in section [" ++ sect ++ "]"

end SyntaxFault

/-- A bound that a number has to keep. -/
inductive Bound where
  | atLeast (limit : Float)
  | atMost (limit : Float)
  | above (limit : Float)
deriving DecidableEq

namespace Bound

/-- Whether a number breaks the bound. What is not a number breaks none. -/
def isBrokenBy (x : Float) : Bound → Bool
  | atLeast limit => x < limit
  | atMost limit => limit < x
  | above limit => x ≤ limit

/-- The bound as the operator reads it. -/
def text : Bound → String
  | atLeast limit => ">= " ++ shortest limit
  | atMost limit => "<= " ++ shortest limit
  | above limit => "above " ++ shortest limit

end Bound

/-- Why settings cannot be used. Names stand as they were asked for. -/
inductive SettingsError where
  | noSection (sect : String)
  | noOption (sect option : String)
  | notANumber (option value : String)
  | outOfBounds (sect option : String) (value : Float) (bound : Bound)
  | badChoice (sect option value : String)
  | endstopOutOfRange (sect : String)
  | angleTooLarge (angle : Float)
  | badSyntax (fault : SyntaxFault)
deriving DecidableEq

namespace SettingsError

/-- The text for the operator. -/
def message : SettingsError → String
  | noSection sect => "Section not found: [" ++ sect ++ "]"
  | noOption sect option =>
    "Option '" ++ option ++ "' not found in section '[" ++ sect ++ "]'"
  | notANumber option value =>
    "Failed to parse option '" ++ option ++ "' value '" ++ value ++ "' as float"
  | outOfBounds sect option value bound =>
    "Validation error: Option '" ++ option ++ "' in section '[" ++ sect ++ "]' (" ++
      shortest value ++ ") must be " ++ bound.text
  | badChoice sect option value =>
    "Validation error: Choice '" ++ value ++ "' for option '" ++ option ++ "' in section '[" ++
      sect ++ "]' is not a valid choice"
  | endstopOutOfRange sect =>
    "Validation error: position_endstop in section '[" ++ sect ++
      "]' must be between position_min and position_max"
  | angleTooLarge angle =>
    "Validation error: belt_angle (" ++ shortest angle ++ ") must be <= 90"
  | badSyntax fault => "Syntax error: " ++ fault.message

end SettingsError

/-- The settings of a printer: the name of their file, what was read from it, and the changes that
wait to be written back. -/
structure Settings where
  file : Option String := none
  sections : Sections := .empty
  pending : Sections := .empty
deriving DecidableEq

end TouchOff
