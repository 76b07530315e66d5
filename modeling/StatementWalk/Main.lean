import StatementWalk.CommandLine

/-!
# The program

Reads the arguments, the environment and the input, runs the command line and writes its report. No
database driver is linked in, so that an engine cannot be created.
-/

namespace StatementWalk

def driverless : Engine Unit :=
  let unavailable : Fault := ⟨.runtime, "no database driver is available", none⟩
  { create := fun _ _ => Action.fail unavailable
    connect := Action.fail unavailable
    run := fun _ => Action.fail unavailable
    openCursor := Action.fail unavailable
    cursor := fun _ =>
      { execute := fun _ _ => Action.fail unavailable
        fetch := Action.fail unavailable
        canAdvance := fun _ => false
        advance := Action.fail unavailable
        close := Action.fail unavailable
        description := fun _ => none
        rowCount := fun _ => none
        notices := fun _ => {}
        setNotices := fun _ u => u
        stamp := fun _ => 0
        outcomesLeft := fun _ => 0
        rowsLeft := fun _ => 0 }
    commit := Action.fail unavailable
    release := Action.fail unavailable
    dispose := Action.fail unavailable }

end StatementWalk

open StatementWalk in
/-- Runs the command line. The input is read only when no argument holds a text. -/
def main (args : List String) : IO UInt32 := do
  let address ← IO.getEnv "DATABASE_URL"
  let needsInput := match CommandLine.request args address with
    | .ok r => r.sql.isNone && r.url.getD "" != ""
    | .error _ => false
  let input ← if needsInput then (← IO.getStdin).readToEnd else pure ""
  match (CommandLine.program driverless args address input ()).1 with
  | .error f =>
    IO.eprintln f.message
    return 1
  | .ok report =>
    for line in report.output do
      IO.println line
    unless report.complaint.isEmpty do
      IO.eprintln report.complaint
    for record in report.log do
      unless record.level == .debug do
        IO.eprintln record.text
    return UInt32.ofNat report.status
