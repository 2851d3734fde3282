import HostedDelivery.Error
import HostedDelivery.Log

/-!
# From start to end of the process

The controller reads its configuration, says what it is, connects to the hub and watches it until it is asked to stop.
`Launch.run` tells what it logs on the way and how it ends.
-/

namespace HostedDelivery

/-! ### Configuration

What the controller takes from its environment: the namespace to watch, how many passes may run at once, and how long
to wait for more changes before a pass. A number may have blanks around it. -/

/-- The settings of the controller. -/
structure Configuration where
  /-- The namespace of the deployments to watch; all namespaces, if there is none. -/
  namespace_ : Option String := none
  /-- How many passes may run at once. -/
  concurrency : Nat := 3
  /-- How long to wait after a change before a pass, in seconds. -/
  debounce : Nat := 5
  deriving DecidableEq, Repr, Inhabited

namespace Configuration

/-- The number in a variable, or a default where it is not set. -/
def number (lookup : String → Option String) (name : String) (limit default : Nat) : Except PassError Nat :=
  match lookup name with
  | none => .ok default
  | some raw =>
    match Numeral.read limit (Text.trim raw) with
    | .ok n => .ok n
    | .error fault => .error (.invalidConfig (name ++ "=" ++ raw ++ ": " ++ fault.text))

/-- The configuration in an environment. -/
def ofEnvironment (lookup : String → Option String) : Except PassError Configuration := do
  let defaults : Configuration := {}
  let concurrency ← number lookup "RECONCILE_CONCURRENCY" UInt16.size defaults.concurrency
  let debounce ← number lookup "RECONCILE_DEBOUNCE_SECS" UInt64.size defaults.debounce
  return {
    namespace_ := (lookup "WATCH_NAMESPACE").filter fun ns => Text.trim ns ≠ ""
    concurrency
    debounce }

end Configuration

/-! ### The process -/

/-- What the controller finds in the place of a hub. -/
inductive Cluster where
  /-- None is configured. -/
  | unconfigured
  /-- One is configured, but cannot be reached; after a while the process is asked to stop. -/
  | unreachable
  deriving DecidableEq, Repr, Inhabited

/-- How the process ends, and what it logs. -/
structure Launch where
  error : Option PassError
  /-- The lines that are shown, in order and as they are shown. -/
  log : List Log.Entry
  deriving DecidableEq, Repr, Inhabited

namespace Launch

/-- The part of the program that a line of the log comes from. -/
inductive Part where
  | main
  | controller
  | watcher

/-- The target that the log names for a part. -/
def Part.target : Part → String
  | .main => "hypershift_deployment_controller"
  | .controller => "hypershift_deployment_controller::controller"
  | .watcher => "hypershift_deployment_controller::watcher"

/-- The variables that are looked up. -/
def variableNames : List String := ["WATCH_NAMESPACE", "RECONCILE_CONCURRENCY", "RECONCILE_DEBOUNCE_SECS", "RUST_LOG"]

/-- The filter that the environment asks for, or else the one for what matters to a user. -/
def filter (lookup : String → Option String) : Log.Filter :=
  ((lookup "RUST_LOG").bind Log.Filter.ofText?).getD (.upTo .info)

/-- What is said of the configuration. -/
def announcement (c : Configuration) : List (Part × String) := [
  (.main, "Configuration:"),
  (.main, "  Namespace: " ++ c.namespace_.getD "all namespaces"),
  (.main, "  Concurrency: " ++ toString c.concurrency),
  (.main, "  Debounce: " ++ toString c.debounce ++ "s"),
  (.controller, "Initializing HypershiftDeployment Controller")]

/-- What is said of a watch that is asked to stop. -/
def farewell : List (Part × String) := [
  (.controller, "HypershiftDeployment Controller running"),
  (.watcher, "Starting HypershiftDeployment watcher"),
  (.controller, "Shutdown signal received"),
  (.controller, "HypershiftDeployment Controller stopped")]

/-- All that is said, and the error in the end. -/
def course (lookup : String → Option String) (cluster : Cluster) : List (Part × String) × Option PassError :=
  let start := [(Part.main, "Starting HypershiftDeployment Controller")]
  match Configuration.ofEnvironment lookup with
  | .error e => (start, some e)
  | .ok c =>
    match cluster with
    | .unconfigured => (start ++ announcement c, some (.server .unconfigured))
    | .unreachable => (start ++ announcement c ++ farewell, none)

/-- The course of the process in an environment. -/
def run (lookup : String → Option String) (cluster : Cluster) : Launch :=
  let (lines, error) := course lookup cluster
  let shown := lines.filter fun line => (filter lookup).shows line.1.target .info
  ⟨error, shown.map fun line => ⟨.info, Log.displayed line.2⟩⟩

/-- The exit code of the process. -/
def exitCode (l : Launch) : Nat := if l.error.isSome then 1 else 0

end Launch

end HostedDelivery
