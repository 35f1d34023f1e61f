import FlowTesting.Data.OrderedMap

set_option autoImplicit false

/-!
# Ownership labels

Every object made for a flow test is identified by its labels alone. The labels of
the maker and of the owner are written last, so no other map can replace them.
-/

namespace FlowTesting

abbrev Labels := OrderedMap String String

/-- The flow test that an object was made for. -/
structure Owner where
  name : String
  uid : String
  deriving DecidableEq, Repr

/-- Which part of a reference pipeline a slice exercises. -/
inductive TestType where
  | matchRule
  | filterStage
  deriving DecidableEq, Repr

namespace TestType

def text : TestType → String
  | .matchRule => "match"
  | .filterStage => "filter"

def ofText? : String → Option TestType
  | "match" => some .matchRule
  | "filter" => some .filterStage
  | _ => none

theorem ofText?_text (testType : TestType) : ofText? testType.text = some testType := by
  cases testType <;> rfl

end TestType

namespace Labels

def domain : String := "loggingpipelineplumber.isala.me"

def nameKey : String := "app.kubernetes.io/name"
def createdByKey : String := "app.kubernetes.io/created-by"
def managedByKey : String := "app.kubernetes.io/managed-by"
def flowTestKey : String := "loggingpipelineplumber.isala.me/flowtest"
def flowTestUidKey : String := "loggingpipelineplumber.isala.me/flowtest-uuid"
def testIdKey : String := "loggingpipelineplumber.isala.me/test-id"
def testTypeKey : String := "loggingpipelineplumber.isala.me/test-type"
def componentKey : String := "loggingpipelineplumber.isala.me/component"

def createdBy : String := "logging-plumber"
def managedBy : String := "logging-pipeline-plumber"
def aggregatorComponent : String := "log-aggregator"

def ofOwner (owner : Owner) : List (String × String) :=
  [(flowTestKey, owner.name), (flowTestUidKey, owner.uid)]

/-- The labels that no extra map replaces. -/
def fixed (name : String) (owner : Option Owner) : List (String × String) :=
  [(nameKey, name), (createdByKey, createdBy), (managedByKey, managedBy)] ++
    (owner.map ofOwner).getD []

/-- The labels of an object: the extra maps in order, and the fixed labels over them. -/
def ownership (name : String) (owner : Option Owner) (extras : List Labels) : Labels :=
  let merged : Labels := extras.foldl (fun labels extra => labels.insertAll extra.entries) ∅
  merged.insertAll (fixed name owner)

def slice (referenceName : String) (owner : Owner) (testId : Nat) (testType : TestType) : Labels :=
  ownership referenceName (some owner)
    [.ofList [(testIdKey, toString testId), (testTypeKey, testType.text)]]

def aggregator (name : String) : Labels :=
  ownership name none [.ofList [(componentKey, aggregatorComponent)]]

end Labels

end FlowTesting
