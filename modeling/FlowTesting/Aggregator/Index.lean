import FlowTesting.Json.Record

set_option autoImplicit false

/-!
# Aggregator indexes

The log aggregator files what it receives under the slice that sent it. A slice has
delivered once its index holds a record.
-/

namespace FlowTesting

structure Index where
  name : String
  firstLog? : Option Timestamp := none
  lastLog? : Option Timestamp := none
  logCount : Nat := 0
  deriving DecidableEq, Repr

namespace Index

/-- Whether the named index holds a record. -/
def haveLogs (indexes : List Index) (name : String) : Bool :=
  indexes.any (fun index => index.name == name && 0 < index.logCount)

open Decode.Fields in
def decode : Decode.Reader Index :=
  record
    (Index.mk <$> required "name" Decode.text
      <*> defaulted "first_log" (Decode.nullable Decode.timestamp) none
      <*> defaulted "last_log" (Decode.nullable Decode.timestamp) none
      <*> defaulted "log_count" Decode.natural64 0)
    "Index"

def encodeInstant : Option Timestamp → Json
  | none => .null
  | some instant => .text (instant.text .asNeeded)

def encode (index : Index) : Json :=
  .ofMembers [
    ("name", .text index.name),
    ("first_log", encodeInstant index.firstLog?),
    ("last_log", encodeInstant index.lastLog?),
    ("log_count", .ofNat index.logCount)]

end Index

end FlowTesting
