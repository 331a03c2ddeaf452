import TouchOff.Text.Blank

/-!
# Options of the program

The command line names the settings file and may name a script (`-i`, `--debuginput`) and a log file
(`-l`, `--logfile`), and may ask for more log messages (`-v`, `--verbose`). `Options.ofArguments`
reads it. A name may be given once; a value follows its option as the next argument, or directly,
with or without an equals sign after a letter and with one after a word.
-/

namespace TouchOff

/-- An option that has a file as its value. -/
inductive FileOption where
  | script
  | log
deriving DecidableEq, Repr

/-- What a command line has named so far. -/
structure OptionDraft where
  settingsFile : Option String := none
  scriptFile : Option String := none
  logFile : Option String := none
  verbose : Bool := false
deriving DecidableEq, Repr

namespace OptionDraft

/-- Names the settings file. -/
def withSettings (d : OptionDraft) (file : String) : Option OptionDraft :=
  if d.settingsFile.isSome then none else some { d with settingsFile := some file }

/-- Gives an option its file. -/
def withFile (d : OptionDraft) (o : FileOption) (file : String) : Option OptionDraft :=
  match o with
  | .script => if d.scriptFile.isSome then none else some { d with scriptFile := some file }
  | .log => if d.logFile.isSome then none else some { d with logFile := some file }

/-- Asks for more log messages. -/
def withVerbose (d : OptionDraft) : Option OptionDraft :=
  if d.verbose then none else some { d with verbose := true }

/-- Reads the letters after a single dash. The last one may be an option that waits for its file. -/
def withLetters (d : OptionDraft) : List Char → Option (OptionDraft × Option FileOption)
  | [] => some (d, none)
  | 'v' :: rest => d.withVerbose.bind (·.withLetters rest)
  | 'i' :: rest => attached .script rest
  | 'l' :: rest => attached .log rest
  | _ => none
where
  /-- The file that follows its option in the same argument, if it does. -/
  attached (o : FileOption) : List Char → Option (OptionDraft × Option FileOption)
    | [] => some (d, some o)
    | '=' :: file => (d.withFile o (.ofList file)).map (·, none)
    | file => (d.withFile o (.ofList file)).map (·, none)

/-- Reads the word after two dashes, with its file if one follows an equals sign. -/
def withWord (d : OptionDraft) (word : List Char) : Option (OptionDraft × Option FileOption) :=
  match Text.splitAtFirst? (· == '=') word with
  | some (name, file) =>
    if name == "debuginput".toList then (d.withFile .script (.ofList file)).map (·, none)
    else if name == "logfile".toList then (d.withFile .log (.ofList file)).map (·, none)
    else none
  | none =>
    if word == "debuginput".toList then some (d, some .script)
    else if word == "logfile".toList then some (d, some .log)
    else if word == "verbose".toList then d.withVerbose.map (·, none)
    else none

/-- Reads one argument. -/
def withArgument (d : OptionDraft) (argument : String) :
    Option (OptionDraft × Option FileOption) :=
  match argument.toList with
  | '-' :: '-' :: word => d.withWord word
  | '-' :: letter :: letters => d.withLetters (letter :: letters)
  | _ => (d.withSettings argument).map (·, none)

/-- Whether an argument can be the file of the option before it. -/
def isFile (argument : String) : Bool :=
  argument == "-" || argument.toList.head? != some '-'

/-- Reads arguments. The first one is the file of the option that waits for one, if there is such an
option. Two dashes alone end the options. -/
def read (d : OptionDraft) : Option FileOption → List String → Option OptionDraft
  | none, [] => some d
  | some _, [] => none
  | some o, file :: rest =>
    if isFile file then (d.withFile o file).bind (·.read none rest) else none
  | none, argument :: rest =>
    if argument == "--" then rest.foldlM withSettings d
    else (d.withArgument argument).bind fun (d, waiting) => d.read waiting rest

end OptionDraft

/-- The command line of the program. -/
structure Options where
  settingsFile : String
  scriptFile : Option String
  logFile : Option String
  verbose : Bool
deriving DecidableEq, Repr

/-- Reads the arguments; nothing if they are not a command line of the program. -/
def Options.ofArguments (arguments : List String) : Option Options :=
  match ({} : OptionDraft).read none arguments with
  | none => none
  | some d =>
    d.settingsFile.map fun settingsFile =>
      { settingsFile, scriptFile := d.scriptFile, logFile := d.logFile, verbose := d.verbose }

end TouchOff
