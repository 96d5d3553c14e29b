import OpcUa.Decimal.Notation
import OpcUa.NodeId.Basic
import OpcUa.StatusCode
import OpcUa.Time.Timestamp

/-!
# Variants

A value of one of the built-in types, or a list of such values.

* `Variant.toText`: how a value is shown.
* `Variant.asInt?`, `Variant.asFloat?`: the value as a number, where it is one.
-/

namespace OpcUa

inductive Variant where
  | empty
  | boolean (value : Bool)
  | int32 (value : Int32)
  | uint32 (value : UInt32)
  | int64 (value : Int64)
  | uint64 (value : UInt64)
  | float (value : Float32)
  | double (value : Float)
  | string (value : String)
  | dateTime (value : Timestamp)
  | byteString (value : List UInt8)
  | guid (value : Guid)
  | nodeId (value : NodeId)
  | statusCode (value : StatusCode)
  | array (items : List Variant)

namespace Variant

instance : Inhabited Variant := ⟨empty⟩

def isEmpty : Variant → Bool
  | empty => true
  | _ => false

def asBool? : Variant → Option Bool
  | boolean v => some v
  | _ => none

/-- An integer in the range of a signed 64-bit word. -/
def asInt? : Variant → Option Int
  | int32 v => some v.toInt
  | uint32 v => some v.toNat
  | int64 v => some v.toInt
  | uint64 v => if v.toNat < 0x8000000000000000 then some v.toNat else none
  | _ => none

def asFloat? : Variant → Option Float
  | float v => some v.toFloat
  | double v => some v
  | v => v.asInt?.map Float.ofInt

def asStr? : Variant → Option String
  | string v => some v
  | _ => none

def typeName : Variant → String
  | empty => "Empty"
  | boolean _ => "Boolean"
  | int32 _ => "Int32"
  | uint32 _ => "UInt32"
  | int64 _ => "Int64"
  | uint64 _ => "UInt64"
  | float _ => "Float"
  | double _ => "Double"
  | string _ => "String"
  | dateTime _ => "DateTime"
  | byteString _ => "ByteString"
  | guid _ => "Guid"
  | nodeId _ => "NodeId"
  | statusCode _ => "StatusCode"
  | array _ => "Array"

def toText : Variant → String
  | empty => "null"
  | boolean v => Text.boolean v
  | int32 v => toString v.toInt
  | uint32 v => toString v.toNat
  | int64 v => toString v.toInt
  | uint64 v => toString v.toNat
  | float v => Decimal.plainSingle v
  | double v => Decimal.plain v
  | string v => "\"" ++ v ++ "\""
  | dateTime v => v.toText "+00:00"
  | byteString v => "[" ++ toString v.length ++ " bytes]"
  | guid v => v.toText
  | nodeId v => v.toText
  | statusCode v => v.toText
  | array v => "[" ++ toString v.length ++ " elements]"

end Variant

/-- A value with its quality and its times. -/
structure DataValue where
  value : Variant
  status : StatusCode
  sourceTime : Option Timestamp
  serverTime : Option Timestamp

namespace DataValue

/-- A good value that was taken at `time`. -/
def taken (value : Variant) (time : Timestamp) : DataValue :=
  ⟨value, .good, some time, some time⟩

/-- A status in place of a value. -/
def ofStatus (status : StatusCode) : DataValue := ⟨.empty, status, none, none⟩

instance : Inhabited DataValue := ⟨ofStatus .good⟩

def isGood (v : DataValue) : Bool := v.status.isGood

end DataValue

end OpcUa
