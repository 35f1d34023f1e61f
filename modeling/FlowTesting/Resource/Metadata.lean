import FlowTesting.Json.Record
import FlowTesting.Labels

set_option autoImplicit false

/-!
# Object metadata

The metadata of every object in the cluster. Absent parts are left out when it is
written, and instants are written in whole seconds.
-/

namespace FlowTesting

/-- Which part of an object a field manager has written. -/
structure ManagedFields where
  apiVersion? : Option String
  fieldsType? : Option String
  fields? : Option Json
  manager? : Option String
  operation? : Option String
  subresource? : Option String
  time? : Option Timestamp

structure OwnerReference where
  apiVersion : String
  blockOwnerDeletion? : Option Bool
  controller? : Option Bool
  kind : String
  name : String
  uid : String
  deriving DecidableEq

structure Metadata where
  annotations? : Option (OrderedMap String String) := none
  creationTimestamp? : Option Timestamp := none
  deletionGracePeriodSeconds? : Option Int := none
  deletionTimestamp? : Option Timestamp := none
  finalizers? : Option (List String) := none
  generateName? : Option String := none
  generation? : Option Int := none
  labels? : Option Labels := none
  managedFields? : Option (List ManagedFields) := none
  name? : Option String := none
  namespaceName? : Option String := none
  ownerReferences? : Option (List OwnerReference) := none
  resourceVersion? : Option String := none
  selfLink? : Option String := none
  uid? : Option String := none

/-- An instant in whole seconds. -/
def Json.ofTimestamp (instant : Timestamp) : Json := .text (instant.text .seconds)

namespace ManagedFields

open Decode.Fields in
def decode : Decode.Reader ManagedFields :=
  fromObject
    (ManagedFields.mk <$> optional "apiVersion" Decode.text <*> optional "fieldsType" Decode.text
      <*> optional "fieldsV1" Decode.json <*> optional "manager" Decode.text
      <*> optional "operation" Decode.text <*> optional "subresource" Decode.text
      <*> optional "time" Decode.timestamp)
    "ManagedFieldsEntry"

def encode (fields : ManagedFields) : Json :=
  .ofFields [
    ("apiVersion", fields.apiVersion?.map .text),
    ("fieldsType", fields.fieldsType?.map .text),
    ("fieldsV1", fields.fields?),
    ("manager", fields.manager?.map .text),
    ("operation", fields.operation?.map .text),
    ("subresource", fields.subresource?.map .text),
    ("time", fields.time?.map .ofTimestamp)]

end ManagedFields

namespace OwnerReference

open Decode.Fields in
def decode : Decode.Reader OwnerReference :=
  fromObject
    (OwnerReference.mk <$> tolerant "apiVersion" Decode.text ""
      <*> optional "blockOwnerDeletion" Decode.boolean <*> optional "controller" Decode.boolean
      <*> tolerant "kind" Decode.text "" <*> tolerant "name" Decode.text ""
      <*> tolerant "uid" Decode.text "")
    "OwnerReference"

def encode (reference : OwnerReference) : Json :=
  .ofFields [
    ("apiVersion", some (.text reference.apiVersion)),
    ("blockOwnerDeletion", reference.blockOwnerDeletion?.map .boolean),
    ("controller", reference.controller?.map .boolean),
    ("kind", some (.text reference.kind)),
    ("name", some (.text reference.name)),
    ("uid", some (.text reference.uid))]

end OwnerReference

namespace Metadata

/-- The name of an object, or the one it is generated from, or none at all. -/
def name (metadata : Metadata) : String :=
  (metadata.name?.or metadata.generateName?).getD ""

def labels (metadata : Metadata) : Labels := metadata.labels?.getD ∅

def finalizers (metadata : Metadata) : List String := metadata.finalizers?.getD []

/-- The metadata of an object that is about to be made. -/
def ofNew (name namespaceName : String) (labels : Labels) : Metadata :=
  { name? := some name, namespaceName? := some namespaceName, labels? := some labels }

open Decode.Fields in
def decode : Decode.Reader Metadata :=
  fromObject
    (Metadata.mk <$> optional "annotations" Decode.texts
      <*> optional "creationTimestamp" Decode.timestamp
      <*> optional "deletionGracePeriodSeconds" Decode.integer64
      <*> optional "deletionTimestamp" Decode.timestamp
      <*> optional "finalizers" (Decode.list Decode.text)
      <*> optional "generateName" Decode.text
      <*> optional "generation" Decode.integer64
      <*> optional "labels" Decode.texts
      <*> optional "managedFields" (Decode.list ManagedFields.decode)
      <*> optional "name" Decode.text
      <*> optional "namespace" Decode.text
      <*> optional "ownerReferences" (Decode.list OwnerReference.decode)
      <*> optional "resourceVersion" Decode.text
      <*> optional "selfLink" Decode.text
      <*> optional "uid" Decode.text)
    "ObjectMeta"

def encode (metadata : Metadata) : Json :=
  .ofFields [
    ("annotations", metadata.annotations?.map .ofTexts),
    ("creationTimestamp", metadata.creationTimestamp?.map .ofTimestamp),
    ("deletionGracePeriodSeconds", metadata.deletionGracePeriodSeconds?.map .ofInt),
    ("deletionTimestamp", metadata.deletionTimestamp?.map .ofTimestamp),
    ("finalizers", metadata.finalizers?.map .texts),
    ("generateName", metadata.generateName?.map .text),
    ("generation", metadata.generation?.map .ofInt),
    ("labels", metadata.labels?.map .ofTexts),
    ("managedFields", metadata.managedFields?.map (fun entries =>
      .array (entries.map ManagedFields.encode))),
    ("name", metadata.name?.map .text),
    ("namespace", metadata.namespaceName?.map .text),
    ("ownerReferences", metadata.ownerReferences?.map (fun references =>
      .array (references.map OwnerReference.encode))),
    ("resourceVersion", metadata.resourceVersion?.map .text),
    ("selfLink", metadata.selfLink?.map .text),
    ("uid", metadata.uid?.map .text)]

end Metadata

end FlowTesting
