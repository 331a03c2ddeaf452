import TouchOff.Options
import TouchOff.Program

/-!
# Command line

Reads the files that the command line names, runs the program on their texts, and writes what it
leaves behind.
-/

namespace TouchOff

/-- The cause that an error of the system stands for. -/
def FileFault.ofError : IO.Error → FileFault
  | .noFileOrDirectory .. => .missing
  | .permissionDenied .. => .notPermitted
  | .inappropriateType .. => .isDirectory
  | e => .other (toString e)

/-- The text that bytes stand for. -/
def textOfBytes (bytes : ByteArray) : Except FileFault String :=
  match String.fromUTF8? bytes with
  | some text => .ok text
  | none => .error .notText

/-- Reads a file. -/
def readTextFile (file : String) : IO (Except FileFault String) := do
  try
    return textOfBytes (← IO.FS.readBinFile file)
  catch e =>
    return .error (.ofError e)

/-- Reads a stream to its end. -/
partial def readBytes (stream : IO.FS.Stream) (bytes : ByteArray) : IO ByteArray := do
  let more ← stream.read 65536
  if more.isEmpty then return bytes else readBytes stream (bytes ++ more)

/-- Reads the script of a file or, if there is none, of standard input. -/
def readScript : Option String → IO (Except FileFault String)
  | some file => readTextFile file
  | none => do
    try
      return textOfBytes (← readBytes (← IO.getStdin) .empty)
    catch e =>
      return .error (.ofError e)

/-- Makes an empty log file if one is named. -/
def makeLog : Option String → IO (Except FileFault Unit)
  | none => return .ok ()
  | some file => do
    try
      IO.FS.writeFile file ""
      return .ok ()
    catch e =>
      return .error (.ofError e)

/-- Runs the program with given options. -/
def runWith (o : Options) : IO RunResult := do
  match ← makeLog o.logFile with
  | .error fault => return Program.withoutLog (o.logFile.getD "") fault
  | .ok _ =>
    match ← readTextFile o.settingsFile with
    | .error fault => return Program.run o.settingsFile (.error fault) o.scriptFile (.ok "")
    | .ok settings =>
      return Program.run o.settingsFile (.ok settings) o.scriptFile (← readScript o.scriptFile)

end TouchOff

def main (arguments : List String) : IO UInt32 := do
  match TouchOff.Options.ofArguments arguments with
  | none =>
    IO.eprintln "Usage: [OPTIONS] <CONFIG_FILE>"
    return 2
  | some o =>
    let r ← TouchOff.runWith o
    IO.print r.output
    IO.eprint r.errors
    return r.exit.toUInt32
