import TouchOff.Table
import TouchOff.Number.Decimal
import TouchOff.Number.Reading
import TouchOff.Text.Blank
import TouchOff.Text.Case

/-!
# Commands

A command of the operator: a name and named parameters with raw text values (`Command`). Names are
kept in upper case. The ways in which a command can be refused for its text, or for the names it
brings or asks for, are the causes `CommandError`.
-/

namespace TouchOff

/-- Why a command is refused. -/
inductive CommandError where
  | unknown (name : String)
  | emptyLine
  | notALetter (name : String)
  | badWord (word line : String)
  | missing (line parameter : String)
  | notANumber (value : String)
  | notFinite (line parameter : String)
  | belowMinimum (line parameter : String) (minimum : Float)
  | notAbove (line parameter : String) (bound : Float)
  | badStep (value : String)
  | alreadyRegistered (name : String)
  | noEndstop
  | noProbe
deriving DecidableEq

namespace CommandError

/-- How a text about one parameter of a command line starts. -/
def about (line parameter : String) : String :=
  "Error on '" ++ line ++ "': " ++ parameter

/-- The text for the operator. -/
def message : CommandError → String
  | unknown name => "Unknown command:\"" ++ name ++ "\""
  | emptyLine => "Empty G-code line"
  | notALetter name => "Command must start with a letter: " ++ name
  | badWord word line => "Malformed parameter '" ++ word ++ "' in: " ++ line
  | missing line parameter => "Error on '" ++ line ++ "': missing " ++ parameter
  | notANumber value => "Unable to parse '" ++ value ++ "' as a float"
  | notFinite line parameter => about line parameter ++ " must be a finite number"
  | belowMinimum line parameter minimum =>
    about line parameter ++ " must have minimum of " ++ shortest minimum
  | notAbove line parameter bound => about line parameter ++ " must be above " ++ shortest bound
  | badStep value => "Unable to parse '" ++ value ++ "' as a float or one of +, ++, -, --"
  | alreadyRegistered name => "gcode command " ++ name ++ " already registered"
  | noEndstop => "Option 'position_endstop' in section 'stepper_y' must be specified"
  | noProbe => "Printer object [belt_probe] is not configured"

end CommandError

/-- A command with its parameters, and the line it came from as the operator gave it. -/
structure Command where
  name : String
  line : String
  params : Table String
deriving DecidableEq

namespace Command

/-- The command of a name and parameters, of which a later one of the same name wins. -/
def make (name : String) (params : List (String × String)) : Command where
  name := Text.upper name
  line := name
  params := .ofList (params.map fun (key, value) => (Text.upper key, value))

/-- The raw text of a parameter, if it was given. -/
def param? (c : Command) (name : String) : Option String :=
  c.params.get? (Text.upper name)

/-- Whether a parameter was given. -/
def has (c : Command) (name : String) : Bool :=
  (c.param? name).isSome

/-- A value that was given or, where none was, the default. -/
def orDefault {α : Type} (c : Command) (name : String) (default : Option α) :
    Except CommandError α :=
  match default with
  | some value => .ok value
  | none => .error (.missing c.line name)

/-- The raw text of a parameter. -/
def text (c : Command) (name : String) (default : Option String := none) :
    Except CommandError String :=
  match c.param? name with
  | some value => .ok value
  | none => c.orDefault name default

/-- Lets a finite number pass that is at least `minimum` and above `bound`, where they are set. -/
def checked (c : Command) (name : String) (minimum bound : Option Float) (value : Float) :
    Except CommandError Float :=
  if !value.isFinite then .error (.notFinite c.line name)
  else match minimum.filter (value < ·) with
    | some limit => .error (.belowMinimum c.line name limit)
    | none =>
      match bound.filter (value ≤ ·) with
      | some limit => .error (.notAbove c.line name limit)
      | none => .ok value

/-- The number of a parameter, with a default, an inclusive minimum and an exclusive lower bound
where they are set. The default has to keep them too. -/
def number (c : Command) (name : String) (default : Option Float := none)
    (minimum : Option Float := none) (bound : Option Float := none) : Except CommandError Float :=
  match c.param? name with
  | some value =>
    match readFloat? (Text.trim value) with
    | some x => c.checked name minimum bound x
    | none => .error (.notANumber value)
  | none =>
    match c.orDefault name default with
    | .ok x => c.checked name minimum bound x
    | .error cause => .error cause

/-- The number of a parameter that need not be given. -/
def number? (c : Command) (name : String) : Except CommandError (Option Float) :=
  if c.has name then
    match c.number name with
    | .ok value => .ok (some value)
    | .error cause => .error cause
  else .ok none

end Command

end TouchOff
