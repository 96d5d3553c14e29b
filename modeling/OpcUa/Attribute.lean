import OpcUa.NodeId.Codec
import OpcUa.Variant.Codec

/-!
# Attributes

The attributes of a node that can be read, written and monitored.
-/

namespace OpcUa

inductive AttributeId where
  | nodeId
  | nodeClass
  | browseName
  | displayName
  | description
  | eventNotifier
  | value
  | dataType
  | accessLevel
  | minimumSamplingInterval
  deriving DecidableEq

namespace AttributeId

def number : AttributeId → Nat
  | nodeId => 1
  | nodeClass => 2
  | browseName => 3
  | displayName => 4
  | description => 5
  | eventNotifier => 12
  | value => 13
  | dataType => 14
  | accessLevel => 17
  | minimumSamplingInterval => 19

def names : List (String × AttributeId) :=
  [("node_id", nodeId), ("node_class", nodeClass), ("browse_name", browseName),
   ("display_name", displayName), ("description", description),
   ("event_notifier", eventNotifier), ("value", value), ("data_type", dataType),
   ("access_level", accessLevel), ("minimum_sampling_interval", minimumSamplingInterval)]

def diagnostic : AttributeId → String
  | nodeId => "NodeId"
  | nodeClass => "NodeClass"
  | browseName => "BrowseName"
  | displayName => "DisplayName"
  | description => "Description"
  | eventNotifier => "EventNotifier"
  | value => "Value"
  | dataType => "DataType"
  | accessLevel => "AccessLevel"
  | minimumSamplingInterval => "MinimumSamplingInterval"

def toJson (a : AttributeId) : Json := .ofCase names a

def ofJson? (j : Json) : Option AttributeId := j.caseOf? names

end AttributeId

/-- Which times come with a value that is read. -/
inductive TimestampsToReturn where
  | source
  | server
  | both
  | neither
  deriving DecidableEq

namespace TimestampsToReturn

def names : List (String × TimestampsToReturn) :=
  [("source", source), ("server", server), ("both", both), ("neither", neither)]

def toJson (t : TimestampsToReturn) : Json := .ofCase names t

def ofJson? (j : Json) : Option TimestampsToReturn := j.caseOf? names

end TimestampsToReturn

/-- An attribute of a node, or a part of it, to be read or monitored. -/
structure ReadValueId where
  node : NodeId
  attributeId : AttributeId
  indexRange : Option String
  deriving DecidableEq

namespace ReadValueId

/-- The whole of an attribute. -/
def whole (node : NodeId) (attributeId : AttributeId) : ReadValueId :=
  ⟨node, attributeId, none⟩

def value (node : NodeId) : ReadValueId := whole node .value

def eventNotifier (node : NodeId) : ReadValueId := whole node .eventNotifier

instance : Inhabited ReadValueId := ⟨value .null⟩

def toJson (t : ReadValueId) : Json :=
  .obj ([("node_id", t.node.toJson), ("attribute_id", t.attributeId.toJson)] ++
    Json.optionalField "index_range" Json.str t.indexRange)

def ofJson? (j : Json) : Option ReadValueId := do
  let r ← j.record? ["node_id", "attribute_id", "index_range"]
  return ⟨← r.required "node_id" NodeId.ofJson?, ← r.required "attribute_id" AttributeId.ofJson?,
    ← r.defaulted "index_range" none (Json.nullable Json.asStr?)⟩

end ReadValueId

/-- A value to be written to an attribute of a node, or to a part of it. -/
structure WriteValue where
  node : NodeId
  attributeId : AttributeId
  indexRange : Option String
  value : DataValue

namespace WriteValue

def toJson (w : WriteValue) : Json :=
  .obj ([("node_id", w.node.toJson), ("attribute_id", w.attributeId.toJson)] ++
    Json.optionalField "index_range" Json.str w.indexRange ++ [("value", w.value.toJson)])

def ofJson? (j : Json) : Option WriteValue := do
  let r ← j.record? ["node_id", "attribute_id", "index_range", "value"]
  return ⟨← r.required "node_id" NodeId.ofJson?, ← r.required "attribute_id" AttributeId.ofJson?,
    ← r.defaulted "index_range" none (Json.nullable Json.asStr?),
    ← r.required "value" DataValue.ofJson?⟩

end WriteValue

end OpcUa
