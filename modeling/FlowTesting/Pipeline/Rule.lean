import FlowTesting.Json.Decode
import FlowTesting.Labels

set_option autoImplicit false

/-!
# Rules

One match rule or filter stage of a pipeline. What a rule means is left to the
pipeline; here rules are only copied and compared.
-/

namespace FlowTesting

structure Rule where
  value : Json

namespace Rule

instance : Inhabited Rule := ⟨⟨.null⟩⟩

/-- Rules are equal when their values are, whatever the order of their members was. -/
instance : BEq Rule := ⟨fun left right => left.value == right.value⟩

instance : EquivBEq Rule where
  rfl := by simp [BEq.beq, Json.same_refl]
  symm := fun {left right} equal => Json.same_symm left.value right.value equal
  trans := fun {left middle right} first second =>
    Json.same_trans left.value middle.value right.value first second

def decode : Decode.Reader Rule := fun document => (Decode.json document).map Rule.mk

def encode (rule : Rule) : Json := rule.value

/-- The filter that keeps the records whose field matches a pattern. -/
def grep (key pattern : String) : Rule :=
  ⟨.ofMembers [("grep", .ofMembers [("regexp",
    .array [.ofMembers [("key", .text key), ("pattern", .text pattern)]])])]⟩

/-- The match rule that selects pods by labels. -/
def select (labels : Labels) : Rule :=
  ⟨.ofMembers [("select", .ofMembers [("labels", .ofTexts labels)])]⟩

end Rule

end FlowTesting
