import OpcUa.Text.Invisible

/-!
# Quoted text

A text in double quotes, with quotes, backslashes and invisible characters escaped.
-/

namespace OpcUa.Text

/-- The hexadecimal digits of `n`, as few as possible. -/
def hexDigitsOf (n : Nat) : List Char := Nat.toDigits 16 n

def escapeQuoted (c : Char) : List Char :=
  match c with
  | '\x00' => ['\\', '0']
  | '\t' => ['\\', 't']
  | '\r' => ['\\', 'r']
  | '\n' => ['\\', 'n']
  | '"' => ['\\', '"']
  | '\\' => ['\\', '\\']
  | c =>
    if isInvisible c then '\\' :: 'u' :: '\x7b' :: (hexDigitsOf c.toNat ++ ['\x7d'])
    else [c]

def quoted (s : String) : String :=
  String.ofList ('"' :: (s.toList.flatMap escapeQuoted ++ ['"']))

end OpcUa.Text
