import TouchOff.Command.Basic

/-!
# Reading commands

A command line is the text before the first semicolon. Its first word is the name of the command,
each later word a parameter: `KEY=VALUE`, or a letter with its value behind it, as in `X10`.
-/

namespace TouchOff

/-- A command line without its comment and the blanks at either end. -/
def withoutComment (line : String) : String :=
  Text.trim (Text.before (· == ';') line)

/-- The key and the value of a word; the key may turn out not to start with a letter. -/
def splitWord (word : String) : String × String :=
  match Text.splitAtFirst? (· == '=') word.toList with
  | some (key, value) => (Text.upper (.ofList key), .ofList value)
  | none =>
    match word.toList with
    | [] => ("", "")
    | letter :: value => (.ofList [Text.asciiUpper letter], .ofList value)

namespace Command

/-- Reads the words after the name as parameters. The first one whose key does not start with a
letter is the fault; `line` is the whole line as it was given. -/
def readParams (line : String) : List String → Except CommandError (List (String × String))
  | [] => .ok []
  | word :: rest =>
    if Text.startsWithLetter (splitWord word).1 then
      match readParams line rest with
      | .ok params => .ok (splitWord word :: params)
      | .error cause => .error cause
    else .error (.badWord word line)

/-- Reads a command line. -/
def read (line : String) : Except CommandError Command :=
  let text := withoutComment line
  match Text.words text with
  | [] => .error .emptyLine
  | word :: rest =>
    let name := Text.upper word
    if Text.startsWithLetter name then
      match readParams line rest with
      | .ok params => .ok ⟨name, text, .ofList params⟩
      | .error cause => .error cause
    else .error (.notALetter name)

end Command

end TouchOff
