import FlowTesting.Configuration

set_option autoImplicit false

/-!
# Settings

The parts of the configuration that the command line can set. Each has a flag of its
own, and a variable of the environment that stands in for the flag.
-/

namespace FlowTesting

inductive Setting where
  | aggregatorNamespace
  | logOutputEndpoint
  | simulatorImage
  | simulatorTag
  | simulatorPullPolicy
  | aggregatorImage
  | aggregatorTag
  | aggregatorPullPolicy
  | warmupSeconds
  | timeoutSeconds
  | pollIntervalSeconds
  | slicePassPolicy
  deriving DecidableEq, Repr

namespace Setting

def all : List Setting := [
  .aggregatorNamespace, .logOutputEndpoint, .simulatorImage, .simulatorTag, .simulatorPullPolicy,
  .aggregatorImage, .aggregatorTag, .aggregatorPullPolicy, .warmupSeconds, .timeoutSeconds,
  .pollIntervalSeconds, .slicePassPolicy]

theorem mem_all (setting : Setting) : setting ∈ all := by
  cases setting <;> decide

def flagName : Setting → String
  | .aggregatorNamespace => "aggregator-namespace"
  | .logOutputEndpoint => "log-output-endpoint"
  | .simulatorImage => "simulator-image"
  | .simulatorTag => "simulator-tag"
  | .simulatorPullPolicy => "simulator-pull-policy"
  | .aggregatorImage => "aggregator-image"
  | .aggregatorTag => "aggregator-tag"
  | .aggregatorPullPolicy => "aggregator-pull-policy"
  | .warmupSeconds => "warmup-secs"
  | .timeoutSeconds => "timeout-secs"
  | .pollIntervalSeconds => "poll-interval-secs"
  | .slicePassPolicy => "slice-pass-policy"

/-- The variable of the environment, which also stands for the value in help texts. -/
def variableName (setting : Setting) : String :=
  setting.flagName.map (fun character => if character = '-' then '_' else character.toUpper)

def ofFlagName? (name : String) : Option Setting :=
  all.find? (fun setting => setting.flagName == name)

def usage (setting : Setting) : String := s!"--{setting.flagName} <{setting.variableName}>"

def description : Setting → String
  | .aggregatorNamespace => "Namespace of the shared log aggregator"
  | .logOutputEndpoint => "Index listing URL, overriding the in-cluster aggregator service"
  | .simulatorImage => "Pod simulator image repository"
  | .simulatorTag => "Pod simulator image tag"
  | .simulatorPullPolicy => "Pod simulator pull policy"
  | .aggregatorImage => "Log aggregator image repository"
  | .aggregatorTag => "Log aggregator image tag"
  | .aggregatorPullPolicy => "Log aggregator pull policy"
  | .warmupSeconds => "Seconds to wait after provisioning before the first verification"
  | .timeoutSeconds => "Seconds after creation at which a FlowTest is completed regardless"
  | .pollIntervalSeconds => "Seconds between verification passes"
  | .slicePassPolicy => "What to do with a slice once it passed (delete or deactivate)"

def value? (configuration : Configuration) : Setting → Option String
  | .aggregatorNamespace => some configuration.aggregatorNamespace
  | .logOutputEndpoint => configuration.logOutputEndpoint?
  | .simulatorImage => some configuration.simulatorImage.repository
  | .simulatorTag => some configuration.simulatorImage.tag
  | .simulatorPullPolicy => some configuration.simulatorImage.pullPolicy
  | .aggregatorImage => some configuration.aggregatorImage.repository
  | .aggregatorTag => some configuration.aggregatorImage.tag
  | .aggregatorPullPolicy => some configuration.aggregatorImage.pullPolicy
  | .warmupSeconds => some (toString configuration.warmup.seconds)
  | .timeoutSeconds => some (toString configuration.timeout.seconds)
  | .pollIntervalSeconds => some (toString configuration.pollInterval.seconds)
  | .slicePassPolicy => some configuration.passPolicy.text

end Setting

inductive ValueFault where
  | emptyNumber
  | invalidDigit
  | numberTooLarge
  | policy (message : String)
  deriving DecidableEq, Repr

def ValueFault.message : ValueFault → String
  | .emptyNumber => "cannot parse integer from empty string"
  | .invalidDigit => "invalid digit found in string"
  | .numberTooLarge => "number too large to fit in target type"
  | .policy message => message

namespace Setting

/-- The first number of seconds that is too large. -/
def secondsBound : Nat := Nat.pow 2 64

/-- Reads digits into a number that stays within bounds, up to the first fault. -/
def digits (value : Nat) : List Char → Except ValueFault Nat
  | [] => .ok value
  | character :: rest =>
    if !character.isDigit then .error .invalidDigit
    else
      let next := value * 10 + (character.toNat - '0'.toNat)
      if next < secondsBound then digits next rest else .error .numberTooLarge

/-- Reads a number of seconds, which may have a plus sign before it. -/
def seconds (text : String) : Except ValueFault Nat :=
  match text.toList with
  | [] => .error .emptyNumber
  | ['+'] => .error .invalidDigit
  | '+' :: rest => digits 0 rest
  | characters => digits 0 characters

def duration (text : String) : Except ValueFault Duration := (seconds text).map Duration.ofSeconds

def apply (setting : Setting) (value : String) (configuration : Configuration) :
    Except ValueFault Configuration :=
  let simulator := configuration.simulatorImage
  let aggregator := configuration.aggregatorImage
  match setting with
  | .aggregatorNamespace => .ok { configuration with aggregatorNamespace := value }
  | .logOutputEndpoint => .ok { configuration with logOutputEndpoint? := some value }
  | .simulatorImage =>
    .ok { configuration with simulatorImage := { simulator with repository := value } }
  | .simulatorTag => .ok { configuration with simulatorImage := { simulator with tag := value } }
  | .simulatorPullPolicy =>
    .ok { configuration with simulatorImage := { simulator with pullPolicy := value } }
  | .aggregatorImage =>
    .ok { configuration with aggregatorImage := { aggregator with repository := value } }
  | .aggregatorTag => .ok { configuration with aggregatorImage := { aggregator with tag := value } }
  | .aggregatorPullPolicy =>
    .ok { configuration with aggregatorImage := { aggregator with pullPolicy := value } }
  | .warmupSeconds => (duration value).map (fun warmup => { configuration with warmup })
  | .timeoutSeconds => (duration value).map (fun timeout => { configuration with timeout })
  | .pollIntervalSeconds =>
    (duration value).map (fun pollInterval => { configuration with pollInterval })
  | .slicePassPolicy =>
    ((PassPolicy.parse value).mapError .policy).map (fun passPolicy =>
      { configuration with passPolicy })

end Setting

end FlowTesting
