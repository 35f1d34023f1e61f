import FlowTesting.Resource.Type

set_option autoImplicit false

/-!
# Config maps

Named texts and octets that pods can mount. Octets are written in base64.
-/

namespace FlowTesting

structure ConfigMap where
  binaryData? : Option (OrderedMap String (List UInt8)) := none
  data? : Option (OrderedMap String String) := none
  immutable? : Option Bool := none
  metadata : Metadata

namespace ConfigMap

open Decode.Fields in
def decode : Decode.Reader ConfigMap :=
  fromObject
    ((fun _ binaryData data immutable _ metadata => ConfigMap.mk binaryData data immutable metadata)
      <$> constant "apiVersion" ResourceType.configMap.apiVersion
      <*> optional "binaryData" (Decode.map Decode.octets)
      <*> optional "data" Decode.texts
      <*> optional "immutable" Decode.boolean
      <*> constant "kind" ResourceType.configMap.kind
      <*> tolerant "metadata" Metadata.decode {})
    ResourceType.configMap.kind

def encode (configMap : ConfigMap) : Json :=
  .ofObject .configMap configMap.metadata [
    ("binaryData", configMap.binaryData?.map (fun entries =>
      .object (entries.entries.map (fun entry => (entry.1, .text (Text.Base64.encode entry.2)))))),
    ("data", configMap.data?.map .ofTexts),
    ("immutable", configMap.immutable?.map .boolean)]

end ConfigMap

end FlowTesting
