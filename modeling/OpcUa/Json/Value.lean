/-!
# JSON values

The value type every textual encoding of the library goes through. An integer and a number with
a fraction or an exponent are different values, because the encodings of the protocol types
tell them apart: `1` is a status code and `1.0` is not.

* `Json.field?`: the value of a field of an object.
* `Json.record?`: the named view of a record, whether written by name or by position.
-/

namespace OpcUa

/-- A JSON value. An object keeps its fields in the order in which they were written. -/
inductive Json where
  | null
  | bool (value : Bool)
  | int (value : Int)
  | float (value : Float)
  | str (value : String)
  | arr (items : List Json)
  | obj (fields : List (String × Json))
  deriving Inhabited

namespace Json

/-- The value of field `name`, or `none` if this is no object or has no such field. -/
def field? (name : String) : Json → Option Json
  | .obj fields => (fields.find? (·.1 == name)).map (·.2)
  | _ => none

/-- The value of field `name`, with `null` standing for a missing one. -/
def field (name : String) (j : Json) : Json :=
  (j.field? name).getD .null

def asBool? : Json → Option Bool
  | .bool b => some b
  | _ => none

def asInt? : Json → Option Int
  | .int n => some n
  | _ => none

/-- An integer from 0 up to but excluding `bound`. -/
def asNat? (bound : Nat) : Json → Option Nat
  | .int n => if 0 ≤ n ∧ n < bound then some n.toNat else none
  | _ => none

/-- A number, integers included. -/
def asFloat? : Json → Option Float
  | .int n => some (Float.ofInt n)
  | .float x => some x
  | _ => none

def asStr? : Json → Option String
  | .str s => some s
  | _ => none

def asList? : Json → Option (List Json)
  | .arr xs => some xs
  | _ => none

def isNull : Json → Bool
  | .null => true
  | _ => false

/-- A number, rounded once to single precision. -/
def asFloat32? : Json → Option Float32
  | .int n => some (Float32.ofInt n)
  | .float x => some x.toFloat32
  | _ => none

/-! ## Words -/

def asUInt8? (j : Json) : Option UInt8 := (j.asNat? UInt8.size).map UInt8.ofNat

def asUInt16? (j : Json) : Option UInt16 := (j.asNat? UInt16.size).map UInt16.ofNat

def asUInt32? (j : Json) : Option UInt32 := (j.asNat? UInt32.size).map UInt32.ofNat

def asUInt64? (j : Json) : Option UInt64 := (j.asNat? UInt64.size).map UInt64.ofNat

/-- An integer from `-bound` up to but excluding `bound`. -/
def asSigned? (bound : Int) (j : Json) : Option Int :=
  j.asInt?.filter fun n => decide (-bound ≤ n ∧ n < bound)

/-! ## Nesting -/

mutual

/-- The number of levels of a value. -/
def depth : Json → Nat
  | .arr items => itemsDepth items + 1
  | .obj fields => fieldsDepth fields + 1
  | _ => 1

def itemsDepth : List Json → Nat
  | [] => 0
  | j :: rest => max (depth j) (itemsDepth rest)

def fieldsDepth : List (String × Json) → Nat
  | [] => 0
  | (_, j) :: rest => max (depth j) (fieldsDepth rest)

end

/-! ## Building -/

def nat (n : Nat) : Json := .int n

def ofUInt32 (n : UInt32) : Json := .int n.toNat

def ofOption {α : Type} (f : α → Json) : Option α → Json
  | some a => f a
  | none => .null

def ofList {α : Type} (f : α → Json) (xs : List α) : Json := .arr (xs.map f)

/-- A field that is left out when there is no value. -/
def optionalField {α : Type} (name : String) (f : α → Json) : Option α → List (String × Json)
  | some a => [(name, f a)]
  | none => []

/-! ## Records -/

/-- The fields of a record, as written: by name, or by position up to the last one given. -/
structure Record where
  /-- Whether the record was written as an object. -/
  byName : Bool
  fields : List (String × Json)

/-- The record view of a value with fields `names`, in declaration order. A list longer than the
record is refused; unknown names of an object are not looked at. -/
def record? (names : List String) : Json → Option Record
  | .obj fields => some ⟨true, fields⟩
  | .arr items => if items.length ≤ names.length then some ⟨false, names.zip items⟩ else none
  | _ => none

namespace Record

def find? (r : Record) (name : String) : Option Json :=
  (r.fields.find? (·.1 == name)).map (·.2)

/-- A field that has to be there. -/
def required {α : Type} (r : Record) (name : String) (read : Json → Option α) : Option α :=
  (r.find? name).bind read

/-- A field with a default for when it is not written. An explicit `null` is not the default. -/
def defaulted {α : Type} (r : Record) (name : String) (default : α) (read : Json → Option α) :
    Option α :=
  match r.find? name with
  | some j => read j
  | none => some default

end Record

/-- An optional value: `null` or a value. -/
def nullable {α : Type} (read : Json → Option α) : Json → Option (Option α)
  | .null => some none
  | j => (read j).map some

namespace Record

/-- An optional field. By name it may be left out, by position it may not. -/
def optional {α : Type} (r : Record) (name : String) (read : Json → Option α) :
    Option (Option α) :=
  match r.find? name with
  | some j => nullable read j
  | none => if r.byName then some none else none

end Record

/-- Every element read by `read`, or `none` if one is refused. -/
def readAll {α : Type} (read : Json → Option α) : List Json → Option (List α)
  | [] => some []
  | j :: rest => do
    let a ← read j
    let more ← readAll read rest
    return a :: more

def listOf {α : Type} (read : Json → Option α) : Json → Option (List α)
  | .arr items => readAll read items
  | _ => none

/-- The name of a case without data: the name as a string, or an object that maps it to `null`. -/
def caseName? : Json → Option String
  | .str s => some s
  | .obj [(name, .null)] => some name
  | _ => none

/-- The tag and, if written, the content of a case with data. The tag is written like the name of
a case without data. In positional form the content has to be there. -/
def tagged? (j : Json) : Option (String × Option Json) := do
  let r ← j.record? ["type", "value"]
  let tag ← (r.find? "type").bind caseName?
  match r.find? "value" with
  | some content => return (tag, some content)
  | none => if r.byName then return (tag, none) else none

/-- A case without data, by its name in a table. -/
def caseOf? {α : Type} (table : List (String × α)) (j : Json) : Option α :=
  j.caseName?.bind fun name => table.lookup name

/-- The name of a case in a table, the first one if there are several. -/
def nameOf {α : Type} [BEq α] (table : List (String × α)) (a : α) : String :=
  ((table.find? (·.2 == a)).map (·.1)).getD ""

/-- A case without data is written as its name. -/
def ofCase {α : Type} [BEq α] (table : List (String × α)) (a : α) : Json := .str (nameOf table a)

def bytes? (j : Json) : Option (List UInt8) := listOf asUInt8? j

def ofBytes (bytes : List UInt8) : Json := .arr (bytes.map fun b => .int b.toNat)

end Json

end OpcUa
