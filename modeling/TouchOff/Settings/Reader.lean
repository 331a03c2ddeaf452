import TouchOff.Settings.Basic
import TouchOff.Text.Blank
import TouchOff.Text.Case

/-!
# Reading settings

A text of settings is read line by line. What a line says does not depend on the lines before it
(`SettingsLine`); a line of options belongs to the section opened last (`Reading`). A later value of
an option replaces an earlier one, also where the section is opened anew. Reading stops at the first
faulty line and keeps what came before it.
-/

namespace TouchOff

/-- What a line of settings says, without its comment. -/
inductive SettingsLine where
  | blank
  | header (sect : String)
  | assignment (option value : String)
  | bare
deriving DecidableEq, Repr

namespace SettingsLine

/-- The characters that start a comment. -/
def isCommentMark (c : Char) : Bool := c == '#' || c == ';'

/-- The characters between an option and its value; the first one on a line separates. -/
def isSeparator (c : Char) : Bool := c == '=' || c == ':'

/-- What a line says. The names of sections and options are turned to lower case. -/
def ofChars (line : List Char) : SettingsLine :=
  let text := Text.trimChars (Text.beforeChars isCommentMark line)
  if text.isEmpty then .blank
  else if text.head? == some '[' && text.getLast? == some ']' then
    .header (Text.lower (.ofList (Text.trimChars text.tail.dropLast)))
  else
    match Text.splitAtFirst? isSeparator text with
    | some (option, value) =>
      .assignment (Text.lower (.ofList (Text.trimChars option))) (.ofList (Text.trimChars value))
    | none => .bare

end SettingsLine

/-- How far the reading of a text has come: the sections so far, and the one opened last. -/
structure Reading where
  sections : Sections := .empty
  current : Option String := none
deriving DecidableEq

namespace Reading

/-- Takes in one line. -/
def line (r : Reading) (raw : List Char) : Except SyntaxFault Reading :=
  match SettingsLine.ofChars raw, r.current with
  | .blank, _ => .ok r
  | .header sect, _ =>
    if sect.isEmpty then .error .emptySection
    else .ok ⟨r.sections.opened sect, some sect⟩
  | _, none => .error (.outsideSection (.ofList raw))
  | .bare, some sect => .error (.noSeparator sect (.ofList raw))
  | .assignment option value, some sect =>
    if option.isEmpty then .error (.emptyOption sect)
    else .ok ⟨r.sections.assigned sect option value, some sect⟩

/-- Takes in lines up to the first faulty one. -/
def lines : Reading → List (List Char) → Reading × Except SyntaxFault Unit
  | r, [] => (r, .ok ())
  | r, raw :: rest =>
    match r.line raw with
    | .ok r' => r'.lines rest
    | .error fault => (r, .error fault)

end Reading

namespace Settings

/-- Reads a text. Nothing of what was read before is left; pending changes stay. -/
def read (s : Settings) (text : String) : Settings × Except SettingsError Unit :=
  let (reading, result) := Reading.lines {} (Text.lineChars text.toList)
  ({ s with sections := reading.sections }, result.mapError .badSyntax)

end Settings

end TouchOff
