import PortMapping.Configuration.Decode
import PortMapping.Rehearsal.Program

/-!
# The command

Reads the arguments, the environment and the configuration file, runs the program
on a machine without addresses, and prints what it leaves behind.
-/

namespace PortMapping

/-- The failure that an error of the system stands for. -/
def failureOf : IO.Error → IoFailure
  | .noFileOrDirectory .. => .refused .noSuchFile
  | .inappropriateType _ number _ =>
      .refused (if number = 20 then .notDirectory else .isDirectory)
  | .permissionDenied _ number _ =>
      .refused (if number = 13 then .permissionDenied else .notPermitted)
  | error => .described (toString error)

/-- What reading a file yields. -/
def readContent (path : String) : IO (Except IoFailure Octets) := do
  try
    return .ok (← IO.FS.readBinFile path).toList
  catch error => return .error (failureOf error)

/-- A log record as one line. -/
def logLine (record : LogRecord) : String := record.level.name ++ " " ++ record.message

/-- Run the program with arguments and return its exit status. -/
def command (arguments : List String) : IO UInt32 := do
  let environment ← IO.getEnv "RUST_LOG"
  let path :=
    match CommandLine.parse arguments with
    | .run options => options.configurationFile
    | _ => ""
  let content ← readContent path
  match runProgram Host.isolated (fun _ => content) Configuration.read environment arguments
      (.ofList []) {} with
  | .error failure =>
      IO.eprintln failure.text
      return 1
  | .ok outcome =>
      IO.print outcome.output
      for record in outcome.log do IO.println (logLine record)
      IO.eprint outcome.errorOutput
      return outcome.exit.toUInt32

end PortMapping

/-- Run the program. -/
def main (arguments : List String) : IO UInt32 := PortMapping.command arguments
