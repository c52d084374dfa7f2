import ProjectorControl.CommandLine.Run

/-!
# The program

The command line as a program: it gathers the arguments and the variables of the
environment, and writes what `CommandLine.run` reports.  It runs on a machine without a
network.
-/

namespace ProjectorControl

/-- The variables of the environment that hold settings, as far as they are set. -/
def readEnvironment : IO (List (String × String)) := do
  let names := ClientConfig.settingNames
  let all := [names.host, names.port, names.password, names.timeout]
  let values ← all.mapM fun name => do
    return (name, ← IO.getEnv name)
  return values.filterMap fun (name, value) => value.map fun v => (name, v)

/-- Waits until the program is interrupted. -/
partial def waitForInterrupt : IO Unit := do
  IO.sleep 60000
  waitForInterrupt

end ProjectorControl

/-- Runs the command line. -/
def main (args : List String) : IO UInt32 := do
  let environment ← ProjectorControl.readEnvironment
  let lookup (name : String) : Option String := environment.lookup name
  let network : ProjectorControl.Net.Isolated := {}
  let report := ProjectorControl.CommandLine.run args lookup network
  IO.print report.output
  IO.eprint report.troubles
  (← IO.getStdout).flush
  if report.lasting then ProjectorControl.waitForInterrupt
  return report.code.toUInt32
