import FlowTesting.Pipeline.Flow

set_option autoImplicit false

/-!
# Outputs

Where a flow delivers its records. An output of the whole cluster has the sections of
an output of one namespace beside its own.
-/

namespace FlowTesting

/-- When an output hands on what it has gathered. -/
structure Buffer where
  flushMode? : Option String := none
  flushInterval? : Option String := none
  deriving DecidableEq

structure HttpOutput where
  endpoint : String
  buffer? : Option Buffer := none
  deriving DecidableEq

structure OutputSpec where
  http? : Option HttpOutput := none
  deriving DecidableEq

structure ClusterOutputSpec where
  output : OutputSpec
  enabledNamespaces : List String := []
  deriving DecidableEq

structure Output where
  metadata : Metadata
  spec : OutputSpec

structure ClusterOutput where
  metadata : Metadata
  spec : ClusterOutputSpec

/-- How surplus elements of an array are described. -/
abbrev Surplus := Nat → String

namespace Buffer

open Decode.Fields in
def decode (surplus : Surplus) : Decode.Reader Buffer :=
  record
    (Buffer.mk <$> defaulted "flush_mode" (Decode.nullable Decode.text) none
      <*> defaulted "flush_interval" (Decode.nullable Decode.text) none)
    "Buffer" surplus

def encode (buffer : Buffer) : Json :=
  .ofFields [
    ("flush_mode", buffer.flushMode?.map .text),
    ("flush_interval", buffer.flushInterval?.map .text)]

end Buffer

namespace HttpOutput

open Decode.Fields in
def decode (surplus : Surplus) : Decode.Reader HttpOutput :=
  record
    (HttpOutput.mk <$> required "endpoint" Decode.text
      <*> defaulted "buffer" (Decode.nullable (Buffer.decode surplus)) none)
    "HttpOutput" surplus

def encode (http : HttpOutput) : Json :=
  .ofFields [
    ("endpoint", some (.text http.endpoint)), ("buffer", http.buffer?.map Buffer.encode)]

end HttpOutput

namespace OutputSpec

open Decode.Fields in
def sections (surplus : Surplus) : Decode.Fields OutputSpec :=
  OutputSpec.mk <$> defaulted "http" (Decode.nullable (HttpOutput.decode surplus)) none

def decode : Decode.Reader OutputSpec :=
  Decode.Fields.record (sections Decode.Fields.surplusInArray) "OutputSpec"

def parts (spec : OutputSpec) : List (String × Option Json) :=
  [("http", spec.http?.map HttpOutput.encode)]

def encode (spec : OutputSpec) : Json := .ofFields spec.parts

end OutputSpec

namespace ClusterOutputSpec

open Decode.Fields in
/-- Reads the section of its own before the shared ones. Since the shared ones are told
from other members afterwards, all members have to stand for values. -/
def decode : Decode.Reader ClusterOutputSpec := fun document => do
  let enabledNamespaces ←
    recordFromObject (defaulted "enabledNamespaces" (Decode.list Decode.text) [])
      "ClusterOutputSpec" document
  let output ← recordFromObject (OutputSpec.sections surplusInSequence) "ClusterOutputSpec" document
  if document.isReadable then return { output, enabledNamespaces } else throw .unreadable

def encode (spec : ClusterOutputSpec) : Json :=
  .ofFields (spec.output.parts ++
    [("enabledNamespaces", Json.unlessEmpty .text spec.enabledNamespaces)])

end ClusterOutputSpec

namespace Output

open Decode.Fields in
def decode : Decode.Reader Output :=
  record
    (Output.mk <$> required "metadata" Metadata.decode <*> required "spec" OutputSpec.decode)
    "Output"

def encode (output : Output) : Json :=
  .ofObject .output output.metadata [("spec", some output.spec.encode)]

end Output

namespace ClusterOutput

open Decode.Fields in
def decode : Decode.Reader ClusterOutput :=
  record
    (ClusterOutput.mk <$> required "metadata" Metadata.decode
      <*> required "spec" ClusterOutputSpec.decode)
    "ClusterOutput"

def encode (output : ClusterOutput) : Json :=
  .ofObject .clusterOutput output.metadata [("spec", some output.spec.encode)]

end ClusterOutput

inductive PipelineOutput where
  | output (output : Output)
  | clusterOutput (output : ClusterOutput)

namespace PipelineOutput

/-- The kind of the flows that deliver to the output. -/
def kind : PipelineOutput → PipelineKind
  | .output _ => .flow
  | .clusterOutput _ => .clusterFlow

def metadata : PipelineOutput → Metadata
  | .output object => object.metadata
  | .clusterOutput object => object.metadata

def name (output : PipelineOutput) : String := output.metadata.name

def namespaceName? (output : PipelineOutput) : Option String := output.metadata.namespaceName?

def labels (output : PipelineOutput) : Labels := output.metadata.labels

def spec : PipelineOutput → OutputSpec
  | .output object => object.spec
  | .clusterOutput object => object.spec.output

def endpoint? (output : PipelineOutput) : Option String := output.spec.http?.map (·.endpoint)

def decode (kind : PipelineKind) : Decode.Reader PipelineOutput :=
  match kind with
  | .flow => fun document => (Output.decode document).map .output
  | .clusterFlow => fun document => (ClusterOutput.decode document).map .clusterOutput

def encode : PipelineOutput → Json
  | .output object => object.encode
  | .clusterOutput object => object.encode

end PipelineOutput

end FlowTesting
