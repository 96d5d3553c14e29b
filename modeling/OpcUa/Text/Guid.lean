import OpcUa.Text.Numeral

/-!
# GUIDs

A GUID is written as five groups of lower-case hexadecimal digits. Reading also accepts either
case, the digits without hyphens, and the hyphenated form in braces or after `urn:uuid:`.
-/

namespace OpcUa

structure Guid where
  bits : BitVec 128
  deriving DecidableEq

namespace Guid

def ofNat (n : Nat) : Guid := ⟨BitVec.ofNat 128 n⟩

/-- The digits of each group. -/
def groups : List Nat := [8, 4, 4, 4, 12]

def toChars (g : Guid) : List Char :=
  let ds := Text.hexDigits 32 g.bits.toNat
  ds.take 8 ++ '-' :: (ds.drop 8).take 4 ++ '-' :: (ds.drop 12).take 4 ++
    '-' :: (ds.drop 16).take 4 ++ '-' :: ds.drop 20

def toText (g : Guid) : String := String.ofList g.toChars

/-- Groups of the given sizes, with hyphens between them, joined. -/
def joinGroups? : List Nat → List Char → Option (List Char)
  | [], _ => none
  | [n], cs => if cs.length = n then some cs else none
  | n :: m :: sizes, cs =>
    match cs.drop n with
    | '-' :: rest => (joinGroups? (m :: sizes) rest).map (cs.take n ++ ·)
    | _ => none

def hyphenated? (cs : List Char) : Option Guid :=
  (joinGroups? groups cs).bind fun ds => (Text.ofHexDigits? ds).map ofNat

/-- The start of the URN form, in either case. -/
def urn : List Char := ['u', 'r', 'n', ':', 'u', 'u', 'i', 'd', ':']

def ofChars? (cs : List Char) : Option Guid :=
  if cs.length = 32 then (Text.ofHexDigits? cs).map ofNat
  else if cs.length = 36 then hyphenated? cs
  else if cs.length = 38 ∧ cs.head? = some '\x7b' ∧ cs.getLast? = some '\x7d' then
    hyphenated? (cs.drop 1).dropLast
  else if cs.length = 45 ∧ (cs.take 9).map Char.toLower = urn then hyphenated? (cs.drop 9)
  else none

def ofText? (s : String) : Option Guid := ofChars? s.toList

end Guid

end OpcUa
