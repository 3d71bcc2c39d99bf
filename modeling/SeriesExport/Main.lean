import SeriesExport.CommandLine.Run
import Std.Time.DateTime.Timestamp

/-! The program: reads what a command may look at, runs it, and does what it comes down to. -/
namespace SeriesExport.Main
open CommandLine
set_option autoImplicit false

def readFile (path : String) : IO (Except FileError String) := do
  try
    return .ok (← IO.FS.readFile path)
  catch
    | .noFileOrDirectory _ _ _ => return .error .notFound
    | .inappropriateType _ 21 _ => return .error .isDirectory
    | .inappropriateType _ _ _ => return .error .notDirectory
    | .invalidArgument _ code detail =>
      if code = 36 ∨ code = 0 - 36 then return .error .nameTooLong
      else return .error (.other detail)
    | .permissionDenied _ _ _ => return .error (.other "Permission denied (os error 13)")
    | .userError _ => return .error (.other "stream did not contain valid UTF-8")
    | e => return .error (.other (toString e))

def readFiles (paths : List String) : IO Files := do
  let texts ← paths.mapM fun p => do return (p, ← readFile p)
  return fun path => (texts.lookup path).getD (.error .notFound)

def readVariables (names : List String) : IO Environment := do
  let values ← names.mapM fun n => do return (n, ← IO.getEnv n)
  return fun name => (values.lookup name).join

def now : IO Instant := do
  let t ← Std.Time.Timestamp.now
  return (Instant.ofNanos? t.toNanosecondsSinceUnixEpoch.val).getD Instant.epoch

def world (args : List String) : IO World := do
  let places ← readVariables Settings.directoryVariables
  let paths := pathsOf places args
  let files ← readFiles paths
  let env ← readVariables (variablesOf files paths (← IO.getEnv domainsVariable))
  return { files, env, now := ← now, network := fun _ _ _ => none }

def report (r : Report) : IO UInt32 := do
  IO.print r.stdout
  IO.eprint r.stderr
  return UInt32.ofNat r.exit

def carryOut : Outcome → IO UInt32
  | .finished r => report r
  | .write path content written failed => do
    try
      IO.FS.writeFile path content
      report written
    catch _ => report failed

end SeriesExport.Main

def main (args : List String) : IO UInt32 := do
  SeriesExport.Main.carryOut (SeriesExport.CommandLine.run (← SeriesExport.Main.world args) args)
