import FlowTesting.CommandLine.Arguments
import FlowTesting.FlowTest.Definition
import FlowTesting.Yaml

set_option autoImplicit false

/-!
# Invocations

What the program writes and how it ends: its help, its version, the definition of flow
tests, or a complaint about its arguments. Without a cluster to connect to there is
nothing else to do.
-/

namespace FlowTesting

structure Invocation where
  exitCode : Nat
  output : String := ""
  complaint : String := ""
  deriving DecidableEq, Repr

namespace Invocation

def programName : String := "plumber-operator"

def version : String := "0.1.0"

def about : String := "Logging pipeline plumber operator binary"

def flagHelp (usage description : String) : List String :=
  ["      " ++ usage, "          " ++ description]

/-- What the help tells about a setting: its variable with the value that it has now, and
the value that it has otherwise. -/
def settingDescription (environment : String → Option String) (setting : Setting) : String :=
  let current := (environment setting.variableName).getD ""
  let standard := match setting.value? {} with
    | some value => s!" [default: {value}]"
    | none => ""
  s!"{setting.description} [env: {setting.variableName}={current}]" ++ standard

def help (environment : String → Option String) : String :=
  let lines :=
    [about, "", s!"Usage: {programName} [OPTIONS]", "", "Options:"] ++
      flagHelp "--crd" "Generate the FlowTest CRD manifest and exit" ++
      Setting.all.flatMap (fun setting =>
        flagHelp setting.usage (settingDescription environment setting)) ++
      ["  -h, --help", "          Print help", "  -V, --version", "          Print version"]
  String.join (lines.map (· ++ "\n"))

def noCluster : String := "Error: Failed to create Kubernetes client\n"

def ofFault (environment : String → Option String) (fault : ArgumentFault) : Invocation :=
  let output := match fault with
    | .help => help environment
    | .version => s!"{programName} {version}\n"
    | _ => ""
  { exitCode := fault.exitCode, output, complaint := fault.complaint?.getD "" }

/-- Runs the program where there is no cluster. -/
def run (arguments : List String) (environment : String → Option String) : Invocation :=
  match Options.parse arguments environment with
  | .error fault => ofFault environment fault
  | .ok options =>
    if options.definitionOnly then
      { exitCode := 0, output := Yaml.document Definition.manifest ++ "\n" }
    else { exitCode := 1, complaint := noCluster }

end Invocation

end FlowTesting
