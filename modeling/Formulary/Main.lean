import Std.Time.DateTime.Timestamp
import Formulary.CommandLine
import Formulary.Json

/-!
# The program

Arguments, files, variables and the time are read here, and the report is written.
-/
namespace Formulary

def loadFile (path : String) : IO (Except FileFault String) := do
  try
    return .ok (← IO.FS.readFile path)
  catch
    | .noFileOrDirectory .. => return .error .missing
    | .inappropriateType .. => return .error .directory
    | _ => return .error (if path.isEmpty then .missing else .notText)

def currentTime : IO Calendar.Instant := do
  let since := (← Std.Time.Timestamp.now).toNanosecondsSinceUnixEpoch.val
  return (Calendar.Instant.make? (since / 1000000000) (since % 1000000000).toNat).getD .epoch

def randomUuid : IO Uuid := do
  let bytes ← IO.getRandomBytes 16
  let n := bytes.toList.foldl (fun n b => 256 * n + b.toNat) 0
  let bits := BitVec.ofNat 128 n
  let version := (bits &&& ~~~(0xf#128 <<< 76)) ||| (0x4#128 <<< 76)
  return ⟨(version &&& ~~~(0x3#128 <<< 62)) ||| (0x2#128 <<< 62)⟩

def loadWorld (arguments : List String) : IO World := do
  let found ← knownVariables.mapM fun name => return (name, ← IO.getEnv name)
  let environment := found.filterMap fun (name, value) => value.map fun v => (name, v)
  let files ← (filesFor environment arguments).mapM fun path => return (path, ← loadFile path)
  return {
    contents := fun path => (files.lookup path).getD (.error .missing)
    environment := environment
    now := ← currentTime
    freshId := ← randomUuid
    describeCrash := fun crash => s!"panicked in {crash.stage.text}" }

end Formulary

open Formulary in
def main (arguments : List String) : IO UInt32 := do
  let report := runProgram (← loadWorld arguments) arguments
  if let some output := report.output then
    IO.println output.pretty
  if let some error := report.error then
    IO.eprintln error
  return report.exitCode.toUInt32
