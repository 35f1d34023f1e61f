import FlowTesting.Labels
import FlowTesting.Text.Split

set_option autoImplicit false

/-!
# Label selectors

A selector is a text of terms parted by commas, all of which have to hold. A term
with an equals sign wants the value after the first one, and any other term wants the
key; empty terms hold always.
-/

namespace FlowTesting.Selector

/-- Whether labels fulfil one term. -/
def termHolds (labels : Labels) (term : List Char) : Bool :=
  match Text.splitOnce? '=' term with
  | some (key, value) => labels.get? (String.ofList key) == some (String.ofList value)
  | none => labels.contains (String.ofList term)

/-- Whether labels fulfil every term of a selector. -/
def selects (selector : String) (labels : Labels) : Bool :=
  ((Text.splitOn ',' selector.toList).filter (fun term => !term.isEmpty)).all (termHolds labels)

def flowTest (name : String) : String := Labels.flowTestKey ++ "=" ++ name

def aggregator : String := Labels.componentKey ++ "=" ++ Labels.aggregatorComponent

end FlowTesting.Selector
