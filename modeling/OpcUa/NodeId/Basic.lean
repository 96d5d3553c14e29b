import OpcUa.Text.Base64
import OpcUa.Text.Guid
import OpcUa.Text.Layout
import OpcUa.Text.Quoted

/-!
# Node identifiers

A node is named by a namespace and an identifier within it: a number, a string, a GUID or a byte
string.

* `NodeId.toText`: the text form, such as `ns=2;s=Line1.Temperature`.
-/

namespace OpcUa

/-- An identifier within a namespace. -/
inductive Identifier where
  | numeric (value : UInt32)
  | string (value : String)
  | guid (value : Guid)
  | bytes (value : List UInt8)
  deriving DecidableEq

structure NodeId where
  /-- The index of the namespace; 0 is the standard one. -/
  space : UInt16
  identifier : Identifier
  deriving DecidableEq

namespace NodeId

def numeric (space : UInt16) (value : UInt32) : NodeId := ⟨space, .numeric value⟩

/-- The node that stands for no node. -/
def null : NodeId := numeric 0 0

instance : Inhabited NodeId := ⟨null⟩

def isNull (n : NodeId) : Bool := n == null

end NodeId

namespace Identifier

/-- The letter of the kind, an equals sign and the identifier. -/
def toChars : Identifier → List Char
  | numeric v => 'i' :: '=' :: (toString v.toNat).toList
  | string v => 's' :: '=' :: v.toList
  | guid v => 'g' :: '=' :: v.toChars
  | bytes v => 'b' :: '=' :: Text.Base64.encode v

def diagnostic : Identifier → String
  | numeric v => Text.wrapped "Numeric" (toString v)
  | string v => Text.wrapped "String" (Text.quoted v)
  | guid v => Text.wrapped "Guid" v.toText
  | bytes v => Text.wrapped "Opaque" (Text.bracketed (v.map toString))

end Identifier

namespace NodeId

/-- The identifier, after the namespace unless that is 0. -/
def toChars (n : NodeId) : List Char :=
  let identifier := n.identifier.toChars
  if n.space = 0 then identifier
  else 'n' :: 's' :: '=' :: ((toString n.space.toNat).toList ++ ';' :: identifier)

def toText (n : NodeId) : String := String.ofList n.toChars

def diagnostic (n : NodeId) : String :=
  Text.record "NodeId"
    [("namespace_index", toString n.space), ("identifier", n.identifier.diagnostic)]

end NodeId

end OpcUa
