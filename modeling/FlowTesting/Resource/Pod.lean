import FlowTesting.Resource.Shape.PodSpec
import FlowTesting.Resource.Shape.PodStatus
import FlowTesting.Resource.Shape.Volume
import FlowTesting.Resource.Type

set_option autoImplicit false

/-!
# Pods

The parts of a pod that simulations and the log aggregator are made of have fields of
their own; the others are passed on.
-/

namespace FlowTesting

structure ContainerPort where
  containerPort : Int
  name? : Option String := none
  protocol? : Option String := none
  others : PassedOn := ∅

structure VolumeMount where
  mountPath : String
  name : String
  subPath? : Option String := none
  others : PassedOn := ∅

structure Container where
  args? : Option (List String) := none
  command? : Option (List String) := none
  image? : Option String := none
  imagePullPolicy? : Option String := none
  name : String
  ports? : Option (List ContainerPort) := none
  volumeMounts? : Option (List VolumeMount) := none
  others : PassedOn := ∅

/-- The entries of a config map as the content of a volume. -/
structure ConfigMapVolume where
  name : String
  others : PassedOn := ∅

structure Volume where
  configMap? : Option ConfigMapVolume := none
  name : String
  others : PassedOn := ∅

structure PodSpec where
  containers : List Container
  nodeSelector? : Option (OrderedMap String String) := none
  volumes? : Option (List Volume) := none
  others : PassedOn := ∅

structure Pod where
  metadata : Metadata
  spec? : Option PodSpec
  status? : Option Json := none

open Decode.Fields in
def ContainerPort.decode : Decode.Reader ContainerPort :=
  fromObject
    (ContainerPort.mk <$> tolerant "containerPort" Decode.integer32 0
      <*> optional "name" Decode.text <*> optional "protocol" Decode.text
      <*> PassedOn.members Shape.portMembers)
    "ContainerPort"

def ContainerPort.encode (port : ContainerPort) : Json :=
  .ofFields (port.others.fields ++ [
    ("containerPort", some (.ofInt port.containerPort)),
    ("name", port.name?.map .text),
    ("protocol", port.protocol?.map .text)])

open Decode.Fields in
def VolumeMount.decode : Decode.Reader VolumeMount :=
  fromObject
    (VolumeMount.mk <$> tolerant "mountPath" Decode.text "" <*> tolerant "name" Decode.text ""
      <*> optional "subPath" Decode.text <*> PassedOn.members Shape.mountMembers)
    "VolumeMount"

def VolumeMount.encode (mount : VolumeMount) : Json :=
  .ofFields (mount.others.fields ++ [
    ("mountPath", some (.text mount.mountPath)),
    ("name", some (.text mount.name)),
    ("subPath", mount.subPath?.map .text)])

open Decode.Fields in
def Container.decode : Decode.Reader Container :=
  fromObject
    (Container.mk <$> optional "args" (Decode.list Decode.text)
      <*> optional "command" (Decode.list Decode.text)
      <*> optional "image" Decode.text
      <*> optional "imagePullPolicy" Decode.text
      <*> tolerant "name" Decode.text ""
      <*> optional "ports" (Decode.list ContainerPort.decode)
      <*> optional "volumeMounts" (Decode.list VolumeMount.decode)
      <*> PassedOn.members Shape.containerMembers)
    "Container"

def Container.encode (container : Container) : Json :=
  .ofFields (container.others.fields ++ [
    ("args", container.args?.map .texts),
    ("command", container.command?.map .texts),
    ("image", container.image?.map .text),
    ("imagePullPolicy", container.imagePullPolicy?.map .text),
    ("name", some (.text container.name)),
    ("ports", container.ports?.map (fun ports => .array (ports.map ContainerPort.encode))),
    ("volumeMounts", container.volumeMounts?.map (fun mounts =>
      .array (mounts.map VolumeMount.encode)))])

open Decode.Fields in
def ConfigMapVolume.decode : Decode.Reader ConfigMapVolume :=
  fromObject
    (ConfigMapVolume.mk <$> tolerant "name" Decode.text ""
      <*> PassedOn.members Shape.configMapVolumeMembers)
    "ConfigMapVolumeSource"

def ConfigMapVolume.encode (volume : ConfigMapVolume) : Json :=
  .ofFields (volume.others.fields ++ [("name", some (.text volume.name))])

open Decode.Fields in
def Volume.decode : Decode.Reader Volume :=
  fromObject
    (Volume.mk <$> optional "configMap" ConfigMapVolume.decode <*> tolerant "name" Decode.text ""
      <*> PassedOn.members Shape.volumeMembers)
    "Volume"

def Volume.encode (volume : Volume) : Json :=
  .ofFields (volume.others.fields ++ [
    ("configMap", volume.configMap?.map ConfigMapVolume.encode),
    ("name", some (.text volume.name))])

open Decode.Fields in
def PodSpec.decode : Decode.Reader PodSpec :=
  fromObject
    (PodSpec.mk <$> tolerant "containers" (Decode.list Container.decode) []
      <*> optional "nodeSelector" Decode.texts
      <*> optional "volumes" (Decode.list Volume.decode)
      <*> PassedOn.members Shape.podSpecMembers)
    "PodSpec"

def PodSpec.encode (spec : PodSpec) : Json :=
  .ofFields (spec.others.fields ++ [
    ("containers", some (.array (spec.containers.map Container.encode))),
    ("nodeSelector", spec.nodeSelector?.map .ofTexts),
    ("volumes", spec.volumes?.map (fun volumes => .array (volumes.map Volume.encode)))])

namespace Pod

def containers (pod : Pod) : List Container := (pod.spec?.map (·.containers)).getD []

open Decode.Fields in
def decode : Decode.Reader Pod :=
  fromObject
    ((fun _ _ metadata spec status => Pod.mk metadata spec status) <$>
      constant "apiVersion" ResourceType.pod.apiVersion <*> constant "kind" ResourceType.pod.kind
      <*> tolerant "metadata" Metadata.decode {} <*> optional "spec" PodSpec.decode
      <*> optional "status" Shape.podStatus.read)
    ResourceType.pod.kind

def encode (pod : Pod) : Json :=
  .ofObject .pod pod.metadata [("spec", pod.spec?.map PodSpec.encode), ("status", pod.status?)]

end Pod

end FlowTesting
