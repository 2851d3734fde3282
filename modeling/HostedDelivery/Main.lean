import HostedDelivery.Definition
import HostedDelivery.Json.Yaml
import HostedDelivery.Launch

/-!
# Command line

`crdgen` prints the definition of deployments as YAML. Without arguments the controller starts; it has no way to reach
a hub, and ends with the error of a cluster that is not configured.
-/

namespace HostedDelivery.Launch

/-- Prints the definition of deployments. -/
def printDefinition : IO UInt32 := do
  IO.print Deployment.definition.yaml
  return 0

/-- Starts the controller in the environment of the process. -/
def start : IO UInt32 := do
  let environment ← variableNames.mapM fun name => do return (name, ← IO.getEnv name)
  let launch := run (fun name => (Dict.find? environment name).join) .unconfigured
  for entry in launch.log do
    IO.println entry.message
  if let some e := launch.error then
    IO.eprintln ("Error: " ++ e.text)
  return UInt32.ofNat launch.exitCode

end HostedDelivery.Launch

def main (args : List String) : IO UInt32 :=
  if args = ["crdgen"] then HostedDelivery.Launch.printDefinition else HostedDelivery.Launch.start
