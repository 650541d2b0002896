import Debugger.CommandLine.Run
/-!
# The program

Reads the command line, the settings file and what the surroundings say, and prints what came of
it. Nothing is decided here.
-/

namespace Debugger

/-- The system's failure to read a file, by its number. -/
def FileError.ofSystem (e : IO.Error) : FileError :=
  match e with
  | .noFileOrDirectory .. => .notFound
  | .inappropriateType _ code _ => if code = 21 then .isDirectory else .notDirectory
  | .invalidArgument _ code _ => if code = 36 then .nameTooLong else .other (toString e)
  | e => .other (toString e)

/-- The contents of a file on disk. -/
def readFile (path : String) : IO (Except FileError ByteArray) := do
  try return .ok (← IO.FS.readBinFile path)
  catch e => return .error (.ofSystem e)

/-- Appends lines to a file. Says whether that could be done. -/
def appendLines (path : String) (lines : List String) : IO Bool := do
  try
    IO.FS.withFile path .append fun file => file.putStr (unlines lines)
    return true
  catch _ => return false

/-- Prints what was said, each text to its channel. -/
def printSaid (said : List CommandLine.Said) : IO Unit := do
  for s in said do
    match s with
    | .output text => IO.print text
    | .complaint text => IO.eprint text

/-- Logs as the settings of the run ask for. A log file that cannot be opened is itself worth
logging. -/
def writeLog (result : CommandLine.Result) : IO Unit := do
  let records ← match result.logging.file with
    | some path =>
      if ← appendLines path result.logLines then pure result.records
      else pure (CommandLine.Narration.noLogFile path :: result.records)
    | none => pure result.records
  if result.logging.stderr then
    IO.eprint (unlines (CommandLine.Result.logLines { result with records }))

end Debugger

/-- The program. -/
def main (arguments : List String) : IO UInt32 := do
  let around := ⟨← IO.getEnv "TETHER_CONFIG", ← IO.getEnv "RUST_LOG"⟩
  let result ← Debugger.CommandLine.run Debugger.readFile around arguments
  Debugger.printSaid result.said
  Debugger.writeLog result
  return result.status.toUInt32
