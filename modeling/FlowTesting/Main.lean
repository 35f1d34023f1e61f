import FlowTesting.CommandLine.Invocation

set_option autoImplicit false

/-!
# The program

Reads the arguments and the variables of the settings, and writes what the invocation
has to say.
-/

namespace FlowTesting

def Setting.environment : IO (List (String × String)) := do
  let found ← Setting.all.mapM (fun setting => do
    return (← IO.getEnv setting.variableName).map (fun value => (setting.variableName, value)))
  return found.filterMap id

end FlowTesting

open FlowTesting in
def main (arguments : List String) : IO UInt32 := do
  let environment ← Setting.environment
  let invocation := Invocation.run arguments (fun name => environment.lookup name)
  IO.print invocation.output
  IO.eprint invocation.complaint
  return invocation.exitCode.toUInt32
