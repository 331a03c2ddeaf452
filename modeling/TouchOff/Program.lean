import TouchOff.Printer

/-!
# The program

A run of the program as a function of its inputs (`Program.run`): the settings file and the script
that were read, or the reasons why they could not be read, give what is written and the exit code.
-/

namespace TouchOff

/-- Why a file could not be read. -/
inductive FileFault where
  | missing
  | notPermitted
  | isDirectory
  | notText
  | other (reason : String)
deriving DecidableEq, Repr

/-- The text for the operator. -/
def FileFault.message : FileFault → String
  | missing => "No such file or directory (os error 2)"
  | notPermitted => "Permission denied (os error 13)"
  | isDirectory => "Is a directory (os error 21)"
  | notText => "stream did not contain valid UTF-8"
  | other reason => reason

/-- What a run leaves behind. -/
structure RunResult where
  exit : Nat := 0
  output : String := ""
  errors : String := ""
deriving DecidableEq, Repr

namespace Program

/-- Lines as they are written. -/
def written (lines : List String) : String :=
  String.join (lines.map (· ++ "\n"))

/-- A run that failed: what was being done, and why it could not be done. -/
def failed (context cause : String) : RunResult where
  exit := 1
  errors := "Error: " ++ context ++ "\n\nCaused by:\n    " ++ cause ++ "\n"

/-- What is written about changes that wait; nothing if there are none. -/
def pendingLines (pending : String) : List String :=
  if pending.isEmpty then []
  else "#*# <---------------------- SAVE_CONFIG ---------------------->" ::
    (Text.lines pending).map ("#*# " ++ ·)

/-- A run of a script on a printer that was just set up: what was written while it was set up and by
the lines of the script, and then the changes that wait. -/
def onPrinter (p : Printer) (script : String) : RunResult :=
  let p := p.runScript script
  { output := written (p.bench.console.transcript ++ pendingLines p.pendingText) }

/-- A run whose log file could not be made. -/
def withoutLog (file : String) (fault : FileFault) : RunResult :=
  failed ("Can't create logfile " ++ file) fault.message

/-- Where the script comes from, for the text about a failure to read it. -/
def scriptContext : Option String → String
  | some file => "Unable to read input file " ++ file
  | none => "Unable to read commands from stdin"

/-- A run with the settings of a file and a script of a file or of standard input. The settings come
first: if they are not to be had or do not describe a printer, the script does not matter. -/
def run (settingsFile : String) (settings : Except FileFault String)
    (scriptFile : Option String) (script : Except FileFault String) : RunResult :=
  match settings with
  | .error fault => failed ("Unable to open config file " ++ settingsFile) fault.message
  | .ok text =>
    match Printer.ofText (some settingsFile) text with
    | .error fault => failed ("Error loading config file " ++ settingsFile) fault.message
    | .ok printer =>
      match script with
      | .error fault => failed (scriptContext scriptFile) fault.message
      | .ok script => onPrinter printer script

end Program

end TouchOff
