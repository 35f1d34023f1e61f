import FlowTesting.FlowTest.Basic

set_option autoImplicit false

/-!
# The definition of flow tests

What the cluster is told about flow tests before it accepts any: their names, the
columns in which they are listed, and the schema of their specification and status.
-/

namespace FlowTesting.Definition

def described (description : String) (members : List (String × Json)) : Json :=
  .ofMembers (("description", .text description) :: members)

def textType : String × Json := ("type", .text "string")

def text (description : String) : Json := described description [textType]

def booleans (description : String) : Json :=
  described description
    [("type", .text "array"), ("items", .ofMembers [("type", .text "boolean")])]

def objectMembers (properties : List (String × Json)) : List (String × Json) :=
  [("type", .text "object"), ("properties", .ofMembers properties)]

def required (names : List String) : String × Json := ("required", .texts names)

def nullable : String × Json := ("nullable", .boolean true)

def reference (description : String) : Json :=
  described description (required ["name", "namespace"] :: objectMembers [
    ("kind", described "Object kind (`Pod`, `Flow` or `ClusterFlow`)"
      [textType, ("default", .text "")]),
    ("name", text "Object name"),
    ("namespace", text "Object namespace")])

def spec : Json :=
  described "Pipeline test request" (required ["referenceFlow", "referencePod"] :: objectMembers [
    ("referenceFlow", reference "Flow or ClusterFlow under test"),
    ("referencePod",
      reference "Pod whose container, labels and node placement the simulation copies"),
    ("sentMessages", described "Log lines replayed by the simulation pod" [
      ("type", .text "array"),
      ("items", .ofMembers [textType]),
      ("default", .array [])])])

def statusDescription : String :=
  "Observed state of a FlowTest\n\n" ++
    "`match_status[i]` / `filter_status[i]` track the i-th match rule / filter stage of the " ++
    "reference pipeline as it was when the test was provisioned."

def status : Json :=
  described statusDescription (nullable :: objectMembers [
    ("status", described "Current phase"
      [textType, nullable, ("enum", .texts (FlowTestPhase.all.map FlowTestPhase.text))]),
    ("matchStatus", booleans "Pass flag per reference match rule"),
    ("filterStatus", booleans "Pass flag per reference filter stage")])

def schema : Json :=
  described "Auto-generated derived type for FlowTestSpec via `CustomResource`"
    (("title", .text ResourceType.flowTest.kind) :: required ["spec"] ::
      objectMembers [("spec", spec), ("status", status)])

/-- A column of listings: its heading, its type and where its value is found. -/
def column (heading type path : String) : Json :=
  .ofMembers [("name", .text heading), ("type", .text type), ("jsonPath", .text path)]

def columns : List Json := [
  column "ReferencePod" "string" ".spec.referencePod.name",
  column "ReferenceFlow" "string" ".spec.referenceFlow.name",
  column "Status" "string" ".status.status",
  column "Age" "date" ".metadata.creationTimestamp"]

def version : Json :=
  .ofMembers [
    ("name", .text ResourceType.flowTest.version),
    ("served", .boolean true),
    ("storage", .boolean true),
    ("schema", .ofMembers [("openAPIV3Schema", schema)]),
    ("subresources", .ofMembers [("status", .ofMembers [])]),
    ("additionalPrinterColumns", .array columns)]

def names : Json :=
  .ofMembers [
    ("categories", .array []),
    ("kind", .text ResourceType.flowTest.kind),
    ("plural", .text ResourceType.flowTest.plural),
    ("shortNames", .texts ["ft"]),
    ("singular", .text "flowtest")]

/-- The definition as the cluster takes it. -/
def manifest : Json :=
  .ofMembers [
    ("apiVersion", .text "apiextensions.k8s.io/v1"),
    ("kind", .text "CustomResourceDefinition"),
    ("metadata", .ofMembers [("name",
      .text (ResourceType.flowTest.plural ++ "." ++ ResourceType.flowTest.group))]),
    ("spec", .ofMembers [
      ("group", .text ResourceType.flowTest.group),
      ("names", names),
      ("scope", .text "Namespaced"),
      ("versions", .array [version])])]

end FlowTesting.Definition
