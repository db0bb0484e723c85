import EntityGen.Command.Run
import EntityGen.Command.Usage

/-!
The command line: a run in the file system. All that a run decides is decided in `Command.run`; here its
questions are put to the system, and its report is printed. -/
namespace EntityGen

/-- The cause why the system could not do what was asked. -/
def FileFault.ofError : IO.Error → FileFault
  | .noFileOrDirectory .. => .notFound
  | error@(.inappropriateType _ code _) =>
    -- The system's number of the error, which some calls give negated.
    let number := if code < 0x80000000 then code else 0 - code
    if number == 21 then .isDirectory else if number == 20 then .notDirectory
    else .other (toString error)
  | error => .other (toString error)

/-- What an action gives, or the cause why it failed. -/
def attempt {α : Type} (action : IO α) : IO (Except FileFault α) := do
  try return .ok (← action) catch error => return .error (.ofError error)

/-- The file system and the standard input as the surroundings of a run. -/
def systemSurroundings : IO (Surroundings IO) := do
  let configHome ← IO.getEnv "XDG_CONFIG_HOME"
  let home ← IO.getEnv "HOME"
  return {
    read := fun path => do return (← attempt (IO.FS.readBinFile path)) >>= decode
    write := fun path text => attempt (IO.FS.writeFile path text)
    input := do return (← attempt (do (← IO.getStdin).readBinToEnd)) >>= decode
    userSettings := Settings.userPath? configHome home }

/-- An event on one line. -/
def Event.line (event : Event) : String :=
  Text.sepBy " " (event.level.name :: event.message ::
    event.attributes.map fun (key, value) => key ++ "=" ++ value)

/-- Prints what a run reports. Steps are told only if they are asked for, warnings always. -/
def Command.Report.print (report : Command.Report) (verbose : Bool) : IO Unit := do
  for event in report.events do
    if verbose || event.level == .warn then IO.eprintln event.line
  IO.print report.stdout
  for line in report.stderr do
    IO.eprintln line

end EntityGen

open EntityGen in
def main (words : List String) : IO UInt32 := do
  match Command.Arguments.parse words with
  | .error error =>
    if error.code == 0 then IO.println error.message else IO.eprintln ("error: " ++ error.message)
    return error.code.toUInt32
  | .ok arguments =>
    let report ← Command.run (← systemSurroundings) arguments
    report.print arguments.verbose
    return report.code.toUInt32
