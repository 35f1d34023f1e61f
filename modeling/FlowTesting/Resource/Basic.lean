import FlowTesting.Pipeline.Output
import FlowTesting.Resource.ConfigMap
import FlowTesting.Resource.Pod
import FlowTesting.Resource.Service

set_option autoImplicit false

/-!
# Resources

The objects that flow tests make in the cluster and refer to there. A resource is
known by its kind, its namespace and its name.
-/

namespace FlowTesting

inductive Kind where
  | pod
  | configMap
  | service
  | flow
  | clusterFlow
  | output
  | clusterOutput
  deriving DecidableEq, Repr

namespace Kind

def rank : Kind → Nat
  | .pod => 0
  | .configMap => 1
  | .service => 2
  | .flow => 3
  | .clusterFlow => 4
  | .output => 5
  | .clusterOutput => 6

theorem rank_injective {left right : Kind} (same : left.rank = right.rank) : left = right := by
  cases left <;> cases right <;> first | rfl | cases same

def resourceType : Kind → ResourceType
  | .pod => .pod
  | .configMap => .configMap
  | .service => .service
  | .flow => .flow
  | .clusterFlow => .clusterFlow
  | .output => .output
  | .clusterOutput => .clusterOutput

def text (kind : Kind) : String := kind.resourceType.kind

def ofText? (text : String) : Option Kind :=
  [.pod, .configMap, .service, .flow, .clusterFlow, .output, .clusterOutput].find?
    (fun kind : Kind => kind.text == text)

end Kind

def PipelineKind.flowKind : PipelineKind → Kind
  | .flow => .flow
  | .clusterFlow => .clusterFlow

theorem PipelineKind.flowKind_injective {left right : PipelineKind}
    (same : left.flowKind = right.flowKind) : left = right := by
  cases left <;> cases right <;> first | rfl | cases same

def PipelineKind.outputKind : PipelineKind → Kind
  | .flow => .output
  | .clusterFlow => .clusterOutput

inductive Resource where
  | pod (pod : Pod)
  | configMap (configMap : ConfigMap)
  | service (service : Service)
  | flow (flow : PipelineFlow)
  | output (output : PipelineOutput)

namespace Resource

def kind : Resource → Kind
  | .pod _ => .pod
  | .configMap _ => .configMap
  | .service _ => .service
  | .flow object => object.kind.flowKind
  | .output object => object.kind.outputKind

def metadata : Resource → Metadata
  | .pod object => object.metadata
  | .configMap object => object.metadata
  | .service object => object.metadata
  | .flow object => object.metadata
  | .output object => object.metadata

def name (resource : Resource) : String := resource.metadata.name

def namespaceName? (resource : Resource) : Option String := resource.metadata.namespaceName?

def labels (resource : Resource) : Labels := resource.metadata.labels

def encode : Resource → Json
  | .pod object => object.encode
  | .configMap object => object.encode
  | .service object => object.encode
  | .flow object => object.encode
  | .output object => object.encode

def decode : Kind → Decode.Reader Resource
  | .pod => fun value => (Pod.decode value).map .pod
  | .configMap => fun value => (ConfigMap.decode value).map .configMap
  | .service => fun value => (Service.decode value).map .service
  | .flow => fun value => (PipelineFlow.decode .flow value).map .flow
  | .clusterFlow => fun value => (PipelineFlow.decode .clusterFlow value).map .flow
  | .output => fun value => (PipelineOutput.decode .flow value).map .output
  | .clusterOutput => fun value => (PipelineOutput.decode .clusterFlow value).map .output

end Resource

/-- What a resource is known by. -/
structure ResourceKey where
  kind : Kind
  namespaceName : String
  name : String
  deriving DecidableEq, Repr

namespace ResourceKey

/-- Keys ascend by kind, then by namespace, then by name. -/
def order (left right : ResourceKey) : Ordering :=
  compareLex (compareOn (·.kind.rank))
    (compareLex (compareOn (·.namespaceName)) (compareOn (·.name))) left right

instance : Ord ResourceKey := ⟨order⟩

instance : Std.TransOrd ResourceKey :=
  inferInstanceAs (Std.TransCmp (compareLex (compareOn (fun key : ResourceKey => key.kind.rank))
    (compareLex (compareOn (·.namespaceName)) (compareOn (·.name)))))

instance : Std.LawfulEqOrd ResourceKey where
  eq_of_compare {left right} equal := by
    have ordered : compareLex (compareOn (fun key : ResourceKey => key.kind.rank))
        (compareLex (compareOn (·.namespaceName)) (compareOn (·.name))) left right = .eq := equal
    obtain ⟨sameRank, sameRest⟩ := compareLex_eq_eq.mp ordered
    obtain ⟨sameNamespace, sameName⟩ := compareLex_eq_eq.mp sameRest
    have sameKind : left.kind = right.kind :=
      Kind.rank_injective (Std.LawfulEqCmp.eq_of_compare sameRank)
    replace sameNamespace : left.namespaceName = right.namespaceName :=
      Std.LawfulEqCmp.eq_of_compare sameNamespace
    replace sameName : left.name = right.name := Std.LawfulEqCmp.eq_of_compare sameName
    cases left
    cases right
    simp_all

end ResourceKey

/-- The key that a resource is stored under; no namespace is the empty one. -/
def Resource.key (resource : Resource) : ResourceKey :=
  { kind := resource.kind
    namespaceName := resource.namespaceName?.getD ""
    name := resource.name }

end FlowTesting
