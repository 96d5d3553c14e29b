import OpcUa.Decimal.Notation
import OpcUa.Json.Value

/-!
# Writing JSON text

`Json.render` writes a value without blanks. Numbers that are not integers are written with the
fewest digits that read back; a double that is no number is written as `null`.
-/

namespace OpcUa.Json

namespace Writer

def hexDigit (n : Nat) : Char := (Nat.digitChar n)

/-- The escaped form of one character of a string. -/
def escape (c : Char) : List Char :=
  match c with
  | '"' => ['\\', '"']
  | '\\' => ['\\', '\\']
  | '\n' => ['\\', 'n']
  | '\r' => ['\\', 'r']
  | '\t' => ['\\', 't']
  | '\x08' => ['\\', 'b']
  | '\x0c' => ['\\', 'f']
  | c =>
    if c.toNat < 0x20 then ['\\', 'u', '0', '0', hexDigit (c.toNat / 16), hexDigit (c.toNat % 16)]
    else [c]

/-- A string in quotes, appended to `out`. -/
def quoted (out : String) (s : String) : String :=
  (s.toList.foldl (fun out c => (escape c).foldl String.push out) (out.push '"')).push '"'

mutual

def value (out : String) : Json → String
  | .null => out ++ "null"
  | .bool true => out ++ "true"
  | .bool false => out ++ "false"
  | .int n => out ++ toString n
  | .float x => out ++ (if x.isFinite then Decimal.plain x else "null")
  | .str s => quoted out s
  | .arr [] => out ++ "[]"
  | .arr (j :: rest) => items (value (out.push '[') j) rest
  | .obj [] => out ++ "\x7b\x7d"
  | .obj ((name, j) :: rest) =>
    fields (value ((quoted (out.push '\x7b') name).push ':') j) rest

def items (out : String) : List Json → String
  | [] => out.push ']'
  | j :: rest => items (value (out.push ',') j) rest

def fields (out : String) : List (String × Json) → String
  | [] => out.push '\x7d'
  | (name, j) :: rest => fields (value ((quoted (out.push ',') name).push ':') j) rest

end

end Writer

/-- The compact JSON text of a value. -/
def render (j : Json) : String := Writer.value "" j

end OpcUa.Json
