import TouchOff.Settings.Basic
import TouchOff.Number.Reading
import TouchOff.Text.Case

/-!
# Asking for settings

Look-ups of typed values with their bounds. A default takes the place of a missing option, never
that of a missing section, and it has to keep the bounds as any other value.
-/

namespace TouchOff.Settings

/-- Whether a section was read. -/
def hasSection (s : Settings) (sect : String) : Bool :=
  s.sections.contains (Text.lower sect)

/-- The raw text of an option. -/
def raw (s : Settings) (sect option : String) : Except SettingsError String :=
  match s.sections.get? (Text.lower sect) with
  | none => .error (.noSection sect)
  | some options =>
    match options.get? (Text.lower option) with
    | none => .error (.noOption sect option)
    | some value => .ok value

/-- The converted text of an option, or the default if the option is missing. -/
def converted {α : Type} (s : Settings) (sect option : String) (default : Option α)
    (convert : String → Except SettingsError α) : Except SettingsError α :=
  match s.raw sect option with
  | .ok value => convert value
  | .error (.noOption sect option) =>
    match default with
    | some value => .ok value
    | none => .error (.noOption sect option)
  | .error cause => .error cause

/-- The text of an option. -/
def text (s : Settings) (sect option : String) (default : Option String := none) :
    Except SettingsError String :=
  s.converted sect option default .ok

/-- Lets a number pass that breaks none of the bounds; the first one it breaks is the cause. -/
def checked (sect option : String) (value : Float) : List Bound → Except SettingsError Float
  | [] => .ok value
  | bound :: rest =>
    if bound.isBrokenBy value then .error (.outOfBounds sect option value bound)
    else checked sect option value rest

/-- The number of an option, within bounds. -/
def number (s : Settings) (sect option : String) (default : Option Float := none)
    (bounds : List Bound := []) : Except SettingsError Float :=
  match s.converted sect option default fun value =>
      match readFloat? value with
      | some x => .ok x
      | none => .error (.notANumber option value) with
  | .ok value => checked sect option value bounds
  | .error cause => .error cause

/-- The number of an option that may be missing. -/
def number? (s : Settings) (sect option : String) : Except SettingsError (Option Float) :=
  match s.number sect option with
  | .ok value => .ok (some value)
  | .error (.noOption _ _) => .ok none
  | .error cause => .error cause

/-- The text of an option as one of the choices, in lower case. -/
def choice (s : Settings) (sect option : String) (choices : List String)
    (default : Option String := none) : Except SettingsError String :=
  match s.text sect option default with
  | .ok value =>
    if choices.any (Text.sameAsciiLetters · value) then .ok (Text.lower value)
    else .error (.badChoice sect option value)
  | .error cause => .error cause

end TouchOff.Settings
