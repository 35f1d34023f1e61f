import FlowTesting.Failure
import FlowTesting.Pipeline.Output

set_option autoImplicit false

/-!
# Slice templates

What all slices of a flow test share: where they live, the filter for the records of
the test, and how their outputs deliver.
-/

namespace FlowTesting

/-- The shared shape of the slices of one flow test. -/
structure SliceTemplate where
  kind : PipelineKind
  namespaceName : String
  referenceName : String
  filters : List Rule
  endpointBase : String
  buffer : Buffer

namespace SliceTemplate

/-- The field of a record that tells which pod sent it. -/
def uidField : String := "kubernetes"

def uidFilter (uid : String) : Rule := .grep uidField (".*" ++ uid ++ ".*")

/-- A buffer that hands on what it has gathered every second. -/
def fastBuffer : Buffer := { flushMode? := some "interval", flushInterval? := some "1s" }

def withoutTrailingSlashes (text : String) : String :=
  String.ofList (text.toList.reverse.dropWhile (· == '/')).reverse

/-- The template for a reference, which has to have a namespace. -/
def ofReference (reference : PipelineFlow) (owner : Owner) (endpointBase : String) :
    Except Failure SliceTemplate :=
  match reference.namespaceName? with
  | none => .error (.validation owner.name
      s!"reference {reference.kind.text} {reference.name} has no namespace")
  | some namespaceName => .ok
      { kind := reference.kind
        namespaceName
        referenceName := reference.name
        filters := [uidFilter owner.uid]
        endpointBase := withoutTrailingSlashes endpointBase
        buffer := fastBuffer }

def endpointFor (template : SliceTemplate) (name : String) : String :=
  template.endpointBase ++ "/" ++ name ++ "/"

/-- A flow with the filters of the template before its own, into the output of its name. -/
def flow (template : SliceTemplate) (name : String) (labels : Labels)
    (matchRules filters : List Rule) : PipelineFlow :=
  let metadata := Metadata.ofNew name template.namespaceName labels
  let filters := template.filters ++ filters
  match template.kind with
  | .flow => .flow { metadata, spec := { matchRules, filters, localOutputRefs := [name] } }
  | .clusterFlow =>
    .clusterFlow { metadata, spec := { matchRules, filters, globalOutputRefs := [name] } }

def output (template : SliceTemplate) (name : String) (labels : Labels) : PipelineOutput :=
  let metadata := Metadata.ofNew name template.namespaceName labels
  let spec : OutputSpec :=
    { http? := some { endpoint := template.endpointFor name, buffer? := some template.buffer } }
  match template.kind with
  | .flow => .output { metadata, spec }
  | .clusterFlow => .clusterOutput { metadata, spec := { output := spec } }

end SliceTemplate

end FlowTesting
