import OpcUa.Json.Value

/-!
# Reading JSON text

`Json.parse?` reads one JSON text. An integer that fits 64 bits, signed or unsigned, is an
integer; every other number is a double, and so is `-0`. A field written twice keeps its last
value and the place of its first one.
-/

namespace OpcUa.Json

namespace Reader

def isSpace (c : Char) : Bool := c == ' ' || c == '\n' || c == '\r' || c == '\t'

def skipSpace (cs : List Char) : List Char := cs.dropWhile isSpace

def hexValue? (c : Char) : Option Nat :=
  if '0' ≤ c ∧ c ≤ '9' then some (c.toNat - '0'.toNat)
  else if 'a' ≤ c ∧ c ≤ 'f' then some (c.toNat - 'a'.toNat + 10)
  else if 'A' ≤ c ∧ c ≤ 'F' then some (c.toNat - 'A'.toNat + 10)
  else none

/-- Four hexadecimal digits. -/
def hex4? : List Char → Option (Nat × List Char)
  | a :: b :: c :: d :: rest => do
    let a ← hexValue? a
    let b ← hexValue? b
    let c ← hexValue? c
    let d ← hexValue? d
    return (((a * 16 + b) * 16 + c) * 16 + d, rest)
  | _ => none

/-- A character written as one or two escaped UTF-16 units. A lone surrogate is refused. -/
def escapedUnit? (cs : List Char) : Option (Char × List Char) := do
  let (hi, rest) ← hex4? cs
  if 0xD800 ≤ hi ∧ hi < 0xDC00 then
    match rest with
    | '\\' :: 'u' :: rest =>
      let (lo, rest) ← hex4? rest
      if 0xDC00 ≤ lo ∧ lo < 0xE000 then
        return (Char.ofNat (0x10000 + (hi - 0xD800) * 0x400 + (lo - 0xDC00)), rest)
      else none
    | _ => none
  else if 0xDC00 ≤ hi ∧ hi < 0xE000 then none
  else return (Char.ofNat hi, rest)

def simpleEscape? : Char → Option Char
  | '"' => some '"'
  | '\\' => some '\\'
  | '/' => some '/'
  | 'b' => some '\x08'
  | 'f' => some '\x0c'
  | 'n' => some '\n'
  | 'r' => some '\r'
  | 't' => some '\t'
  | _ => none

/-- The rest of a string after its opening quote, with the characters read so far reversed. -/
def stringBody? : Nat → List Char → List Char → Option (String × List Char)
  | 0, _, _ => none
  | _ + 1, _, [] => none
  | _ + 1, seen, '"' :: rest => some (String.ofList seen.reverse, rest)
  | fuel + 1, seen, '\\' :: 'u' :: rest => do
    let (c, rest) ← escapedUnit? rest
    stringBody? fuel (c :: seen) rest
  | fuel + 1, seen, '\\' :: e :: rest => do
    let c ← simpleEscape? e
    stringBody? fuel (c :: seen) rest
  | fuel + 1, seen, c :: rest =>
    if c.toNat < 0x20 || c == '\\' then none else stringBody? fuel (c :: seen) rest

def digitsValue (ds : List Char) : Nat := ds.foldl (fun n d => n * 10 + (d.toNat - '0'.toNat)) 0

/-- The digits of an exponent after `e`, with its sign. -/
def exponent? (cs : List Char) : Option (Int × List Char) :=
  let (negative, cs) := match cs with
    | '+' :: rest => (false, rest)
    | '-' :: rest => (true, rest)
    | rest => (false, rest)
  let ds := cs.takeWhile Char.isDigit
  if ds.isEmpty then none
  else
    let n : Int := digitsValue ds
    some (if negative then -n else n, cs.dropWhile Char.isDigit)

/-- An integer in the range of the 64-bit words, else the double nearest to it. -/
def ofInteger (negative : Bool) (n : Nat) : Json :=
  if negative then
    if n = 0 then .float (-0.0)
    else if n ≤ 0x8000000000000000 then .int (-(n : Int)) else .float (-(Float.ofNat n))
  else if n < UInt64.size then .int n else .float (Float.ofNat n)

/-- The double nearest to `n * 10 ^ e`. -/
def ofScientific (negative : Bool) (n : Nat) (e : Int) : Json :=
  let magnitude := match e with
    | .ofNat k => Float.ofScientific n false k
    | .negSucc k => Float.ofScientific n true (k + 1)
  .float (if negative then -magnitude else magnitude)

def number? (cs : List Char) : Option (Json × List Char) := do
  let (negative, cs) := match cs with
    | '-' :: rest => (true, rest)
    | rest => (false, rest)
  let whole := cs.takeWhile Char.isDigit
  let rest := cs.dropWhile Char.isDigit
  guard !whole.isEmpty
  guard (whole.length = 1 || whole.head? != some '0')
  let (fraction, rest) ← match rest with
    | '.' :: rest =>
      let ds := rest.takeWhile Char.isDigit
      if ds.isEmpty then none else some (ds, rest.dropWhile Char.isDigit)
    | rest => some ([], rest)
  match rest with
  | 'e' :: rest | 'E' :: rest =>
    let (e, rest) ← exponent? rest
    return (ofScientific negative (digitsValue (whole ++ fraction)) (e - fraction.length), rest)
  | rest =>
    if fraction.isEmpty then return (ofInteger negative (digitsValue whole), rest)
    else
      return (ofScientific negative (digitsValue (whole ++ fraction)) (-fraction.length), rest)

/-- The rest of `cs` after the letters of `word`. -/
def word? (word : List Char) (cs : List Char) : Option (List Char) :=
  if word.isPrefixOf cs then some (cs.drop word.length) else none

/-- Adds a field, replacing the value of an earlier field of the same name. -/
def setField (name : String) (value : Json) : List (String × Json) → List (String × Json)
  | [] => [(name, value)]
  | (n, v) :: rest =>
    if n == name then (n, value) :: rest else (n, v) :: setField name value rest

mutual

/-- One value. Two calls of the three readers use up at least one character, so twice the number
of characters is fuel enough. -/
def value? : Nat → List Char → Option (Json × List Char)
  | 0, _ => none
  | fuel + 1, cs =>
    match skipSpace cs with
    | 'n' :: rest => (word? ['u', 'l', 'l'] rest).map (.null, ·)
    | 't' :: rest => (word? ['r', 'u', 'e'] rest).map (.bool true, ·)
    | 'f' :: rest => (word? ['a', 'l', 's', 'e'] rest).map (.bool false, ·)
    | '"' :: rest => (stringBody? fuel [] rest).map fun (s, rest) => (.str s, rest)
    | '[' :: rest =>
      match skipSpace rest with
      | ']' :: rest => some (.arr [], rest)
      | rest => items? fuel [] rest
    | '\x7b' :: rest =>
      match skipSpace rest with
      | '\x7d' :: rest => some (.obj [], rest)
      | rest => fields? fuel [] rest
    | cs => number? cs

/-- The rest of a list that has at least one more item. -/
def items? : Nat → List Json → List Char → Option (Json × List Char)
  | 0, _, _ => none
  | fuel + 1, seen, cs => do
    let (v, rest) ← value? fuel cs
    match skipSpace rest with
    | ',' :: rest => items? fuel (v :: seen) rest
    | ']' :: rest => return (.arr (v :: seen).reverse, rest)
    | _ => none

/-- The rest of an object that has at least one more field. -/
def fields? : Nat → List (String × Json) → List Char → Option (Json × List Char)
  | 0, _, _ => none
  | fuel + 1, seen, cs =>
    match skipSpace cs with
    | '"' :: rest => do
      let (name, rest) ← stringBody? fuel [] rest
      match skipSpace rest with
      | ':' :: rest =>
        let (v, rest) ← value? fuel rest
        let seen := setField name v seen
        match skipSpace rest with
        | ',' :: rest => fields? fuel seen rest
        | '\x7d' :: rest => return (.obj seen, rest)
        | _ => none
      | _ => none
    | _ => none

end

end Reader

/-- The value written by `text`, if it is one JSON text. -/
def parse? (text : String) : Option Json := do
  let cs := text.toList
  let (v, rest) ← Reader.value? (2 * cs.length + 4) cs
  guard (Reader.skipSpace rest).isEmpty
  return v

end OpcUa.Json
