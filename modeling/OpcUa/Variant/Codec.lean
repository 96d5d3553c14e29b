import OpcUa.NodeId.Codec
import OpcUa.Variant.Basic

/-!
# Variants in JSON

A variant is a tagged value, an empty one has no content. Numbers keep their width: an integer
that does not fit its type is refused.
-/

namespace OpcUa

namespace Timestamp

def toJson (t : Timestamp) : Json := .str (t.toText "Z")

def ofJson? (j : Json) : Option Timestamp := j.asStr?.bind ofText?

end Timestamp

namespace Variant

def tagged (tag : String) (content : Json) : Json :=
  .obj [("type", .str tag), ("value", content)]

mutual

def toJson : Variant → Json
  | empty => .obj [("type", .str "empty")]
  | boolean v => tagged "boolean" (.bool v)
  | int32 v => tagged "int32" (.int v.toInt)
  | uint32 v => tagged "u_int32" (.ofUInt32 v)
  | int64 v => tagged "int64" (.int v.toInt)
  | uint64 v => tagged "u_int64" (.nat v.toNat)
  | float v => tagged "float" (.float v.toFloat)
  | double v => tagged "double" (.float v)
  | string v => tagged "string" (.str v)
  | dateTime v => tagged "date_time" v.toJson
  | byteString v => tagged "byte_string" (.ofBytes v)
  | guid v => tagged "guid" v.toJson
  | nodeId v => tagged "node_id" v.toJson
  | statusCode v => tagged "status_code" v.toJson
  | array items => tagged "array" (.arr (itemsToJson items))

def itemsToJson : List Variant → List Json
  | [] => []
  | v :: rest => toJson v :: itemsToJson rest

end

/-- Reads a variant of at most `fuel` levels. -/
def ofJsonWithin? : Nat → Json → Option Variant
  | 0, _ => none
  | fuel + 1, j => do
    match ← j.tagged? with
    | ("empty", none) | ("empty", some .null) => some empty
    | ("boolean", some v) => v.asBool?.map boolean
    | ("int32", some v) => (v.asSigned? 0x80000000).map (int32 <| Int32.ofInt ·)
    | ("u_int32", some v) => v.asUInt32?.map uint32
    | ("int64", some v) => (v.asSigned? 0x8000000000000000).map (int64 <| Int64.ofInt ·)
    | ("u_int64", some v) => v.asUInt64?.map uint64
    | ("float", some v) => v.asFloat32?.map float
    | ("double", some v) => v.asFloat?.map double
    | ("string", some v) => v.asStr?.map string
    | ("date_time", some v) => (Timestamp.ofJson? v).map dateTime
    | ("byte_string", some v) => v.bytes?.map byteString
    | ("guid", some v) => (Guid.ofJson? v).map guid
    | ("node_id", some v) => (NodeId.ofJson? v).map nodeId
    | ("status_code", some v) => (StatusCode.ofJson? v).map statusCode
    | ("array", some v) => (Json.listOf (ofJsonWithin? fuel) v).map array
    | _ => none

def ofJson? (j : Json) : Option Variant := ofJsonWithin? j.depth j

end Variant

namespace DataValue

def toJson (v : DataValue) : Json :=
  .obj [("value", v.value.toJson), ("status", v.status.toJson),
    ("source_timestamp", .ofOption Timestamp.toJson v.sourceTime),
    ("server_timestamp", .ofOption Timestamp.toJson v.serverTime)]

def ofJson? (j : Json) : Option DataValue := do
  let r ← j.record? ["value", "status", "source_timestamp", "server_timestamp"]
  return ⟨← r.required "value" Variant.ofJson?, ← r.required "status" StatusCode.ofJson?,
    ← r.optional "source_timestamp" Timestamp.ofJson?,
    ← r.optional "server_timestamp" Timestamp.ofJson?⟩

end DataValue

end OpcUa
