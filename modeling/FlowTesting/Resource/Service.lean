import FlowTesting.Resource.Shape.Service
import FlowTesting.Resource.Type

set_option autoImplicit false

/-!
# Services

The parts of a service that the log aggregator needs have fields of their own; the others
are passed on.
-/

namespace FlowTesting

structure ServicePort where
  name? : Option String := none
  port : Int
  protocol? : Option String := none
  targetPort? : Option TargetPort := none
  others : PassedOn := ∅

structure ServiceSpec where
  ports? : Option (List ServicePort) := none
  selector? : Option Labels := none
  others : PassedOn := ∅

structure Service where
  metadata : Metadata
  spec? : Option ServiceSpec
  status? : Option Json := none

open Decode.Fields in
def ServicePort.decode : Decode.Reader ServicePort :=
  fromObject
    (ServicePort.mk <$> optional "name" Decode.text <*> tolerant "port" Decode.integer32 0
      <*> optional "protocol" Decode.text <*> optional "targetPort" TargetPort.decode
      <*> PassedOn.members Shape.servicePortMembers)
    "ServicePort"

def ServicePort.encode (port : ServicePort) : Json :=
  .ofFields (port.others.fields ++ [
    ("name", port.name?.map .text),
    ("port", some (.ofInt port.port)),
    ("protocol", port.protocol?.map .text),
    ("targetPort", port.targetPort?.map TargetPort.encode)])

open Decode.Fields in
def ServiceSpec.decode : Decode.Reader ServiceSpec :=
  fromObject
    (ServiceSpec.mk <$> optional "ports" (Decode.list ServicePort.decode)
      <*> optional "selector" Decode.texts <*> PassedOn.members Shape.serviceSpecMembers)
    "ServiceSpec"

def ServiceSpec.encode (spec : ServiceSpec) : Json :=
  .ofFields (spec.others.fields ++ [
    ("ports", spec.ports?.map (fun ports => .array (ports.map ServicePort.encode))),
    ("selector", spec.selector?.map .ofTexts)])

namespace Service

open Decode.Fields in
def decode : Decode.Reader Service :=
  fromObject
    ((fun _ _ metadata spec status => Service.mk metadata spec status) <$>
      constant "apiVersion" ResourceType.service.apiVersion
      <*> constant "kind" ResourceType.service.kind
      <*> tolerant "metadata" Metadata.decode {} <*> optional "spec" ServiceSpec.decode
      <*> optional "status" Shape.serviceStatus.read)
    ResourceType.service.kind

def encode (service : Service) : Json :=
  .ofObject .service service.metadata [
    ("spec", service.spec?.map ServiceSpec.encode), ("status", service.status?)]

end Service

end FlowTesting
