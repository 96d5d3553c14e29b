import OpcUa.Json.Value
import OpcUa.NodeId.Basic

/-!
# Node identifiers in JSON

A record of the namespace and the tagged identifier.
-/

namespace OpcUa

namespace Guid

def toJson (g : Guid) : Json := .str g.toText

def ofJson? (j : Json) : Option Guid := j.asStr?.bind ofText?

end Guid

namespace Identifier

def toJson : Identifier → Json
  | numeric v => .obj [("type", .str "numeric"), ("value", .ofUInt32 v)]
  | string v => .obj [("type", .str "string"), ("value", .str v)]
  | guid v => .obj [("type", .str "guid"), ("value", v.toJson)]
  | bytes v => .obj [("type", .str "opaque"), ("value", .ofBytes v)]

def ofJson? (j : Json) : Option Identifier := do
  match ← j.tagged? with
  | ("numeric", some v) => v.asUInt32?.map numeric
  | ("string", some v) => v.asStr?.map string
  | ("guid", some v) => (Guid.ofJson? v).map guid
  | ("opaque", some v) => v.bytes?.map bytes
  | _ => none

end Identifier

namespace NodeId

def toJson (n : NodeId) : Json :=
  .obj [("namespace_index", .nat n.space.toNat), ("identifier", n.identifier.toJson)]

def ofJson? (j : Json) : Option NodeId := do
  let r ← j.record? ["namespace_index", "identifier"]
  return ⟨← r.required "namespace_index" Json.asUInt16?,
    ← r.required "identifier" Identifier.ofJson?⟩

end NodeId

end OpcUa
