import OpcUa.Error.Basic
import OpcUa.NodeId.Basic
import OpcUa.Text.Blank

/-!
# Reading node identifiers

`NodeId.parse` reads the text form of a node identifier, with blanks around it. The namespace may
be left out, and ends at the first semicolon.
-/

namespace OpcUa.NodeId

/-- What is wrong with the text of a node identifier. -/
inductive Flaw where
  | missingIdentifier
  | badNamespace
  | badNumber
  | badGuid
  | badBase64
  | unknownKind
  deriving DecidableEq

namespace Flaw

def message : Flaw → String
  | missingIdentifier => "Missing identifier after namespace"
  | badNamespace => "Invalid namespace index"
  | badNumber => "Invalid numeric identifier"
  | badGuid => "Invalid GUID"
  | badBase64 => "Invalid base64"
  | unknownKind => "Unknown identifier type. Expected i=, s=, g=, or b="

end Flaw

def orElse {α : Type} (flaw : Flaw) : Option α → Except Flaw α
  | some a => .ok a
  | none => .error flaw

/-- An identifier: the letter of its kind, an equals sign and its text. -/
def parseIdentifier : List Char → Except Flaw Identifier
  | 'i' :: '=' :: rest => do
    return .numeric (UInt32.ofNat (← orElse .badNumber (Text.unsignedBelow? UInt32.size rest)))
  | 's' :: '=' :: rest => .ok (.string (String.ofList rest))
  | 'g' :: '=' :: rest => do return .guid (← orElse .badGuid (Guid.ofChars? rest))
  | 'b' :: '=' :: rest => do return .bytes (← orElse .badBase64 (Text.Base64.decode? rest))
  | _ => .error .unknownKind

/-- A text cut at its first semicolon, which is dropped. -/
def splitSemicolon : List Char → Option (List Char × List Char)
  | [] => none
  | ';' :: rest => some ([], rest)
  | c :: rest => (splitSemicolon rest).map fun (a, b) => (c :: a, b)

/-- The characters of a node identifier, without blanks around them. -/
def parseChars : List Char → Except Flaw NodeId
  | 'n' :: 's' :: '=' :: rest => do
    let (digits, rest) ← orElse .missingIdentifier (splitSemicolon rest)
    let space ← orElse .badNamespace (Text.unsignedBelow? UInt16.size digits)
    return ⟨UInt16.ofNat space, ← parseIdentifier rest⟩
  | cs => do return ⟨0, ← parseIdentifier cs⟩

/-- The node identifier that a text stands for. The error shows the text without the blanks. -/
def parse (text : String) : Except Error NodeId :=
  let cs := Text.trimChars text.toList
  match parseChars cs with
  | .ok n => .ok n
  | .error flaw => .error (.configuration (.invalidNodeId (String.ofList cs) flaw.message))

end OpcUa.NodeId
