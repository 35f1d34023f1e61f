import FlowTesting.Resource.Shape

set_option autoImplicit false

/-!
# Shapes of references

Parts by which a pod refers to other objects, to its own fields and to resources.
-/

namespace FlowTesting.Shape

/-- A reference to an object of the same namespace. -/
def localReference : Shape := .record "LocalObjectReference" [always "name" .text]

def labelRequirement : Shape :=
  .record "LabelSelectorRequirement" <|
    [always "key" .text, always "operator" .text, optional "values" (.list .text)]

/-- A choice of objects by their labels. -/
def labelSelector : Shape :=
  .record "LabelSelector" <|
    [optional "matchExpressions" (.list labelRequirement), optional "matchLabels" (.map .text)]

def objectField : Shape :=
  .record "ObjectFieldSelector" <|
    [optional "apiVersion" .text, always "fieldPath" .text]

def resourceField : Shape :=
  .record "ResourceFieldSelector" <|
    [optional "containerName" .text, optional "divisor" .text, always "resource" .text]

def resourceClaim : Shape := .record "ResourceClaim" [always "name" .text, optional "request" .text]

def resources : Shape :=
  .record "ResourceRequirements" <|
    [optional "claims" (.list resourceClaim), optional "limits" (.map .text),
      optional "requests" (.map .text)]

end FlowTesting.Shape
