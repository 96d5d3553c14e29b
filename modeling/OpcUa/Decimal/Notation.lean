import OpcUa.Decimal.Shortest

/-!
# Notations of decimals

How the shortest decimal of a floating point value is written: `plain` positionally and without a
superfluous fraction, `explicit` so that a value is seen to be a floating point one.
-/

namespace OpcUa.Decimal

/-- What a notation does about whole numbers and about the size of a number. -/
structure Style where
  /-- Whether a whole number gets `.0`. -/
  pointZero : Bool
  /-- The exponents of the leading digit that are written positionally; `none` for all. -/
  positional : Option (Int × Int)

namespace Style

/-- Every number positionally, whole numbers without a point. -/
def plain : Style := ⟨false, none⟩

/-- Numbers from `10 ^ -4` up to but excluding `10 ^ 16` positionally, whole ones with `.0`;
all others with an exponent. -/
def explicit : Style := ⟨true, some (-4, 15)⟩

end Style

def zeros (n : Nat) : String := String.ofList (List.replicate n '0')

/-- The digits with a point where the exponent says. -/
def positional (pointZero : Bool) (d : Digits) : String :=
  let text := toString d.digits
  if 0 ≤ d.exponent then text ++ zeros d.exponent.toNat ++ (if pointZero then ".0" else "")
  else
    let places := (-d.exponent).toNat
    let padded := (zeros (places + 1 - text.length) ++ text).toList
    let whole := padded.length - places
    String.ofList (padded.take whole ++ '.' :: padded.drop whole)

/-- One digit before the point, and the exponent after `e`. -/
def scientific (d : Digits) : String :=
  match (toString d.digits).toList with
  | [] => ""
  | lead :: rest =>
    let e := d.exponent + rest.length
    let fraction := if rest.isEmpty then "" else String.ofList ('.' :: rest)
    String.singleton lead ++ fraction ++ "e" ++ toString e

def render (style : Style) (b : Binary) : String :=
  let sign := if b.negative then "-" else ""
  match b.magnitude with
  | .notANumber => "NaN"
  | .infinite => sign ++ "inf"
  | .finite m q narrow =>
    let d := shortest m q narrow
    let lead : Int := d.exponent + digitCount d.digits - 1
    match style.positional with
    | some (low, high) =>
      if m = 0 ∨ (low ≤ lead ∧ lead ≤ high) then sign ++ positional style.pointZero d
      else sign ++ scientific d
    | none => sign ++ positional style.pointZero d

def plain (x : Float) : String := render .plain (.ofFloat x)

def plainSingle (x : Float32) : String := render .plain (.ofFloat32 x)

def explicit (x : Float) : String := render .explicit (.ofFloat x)

end OpcUa.Decimal
