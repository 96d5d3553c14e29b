/-!
# Binary floating point words

The value of an IEEE 754 word as an exact `m * 2 ^ q`, for both widths in use.
-/

namespace OpcUa.Decimal

/-- A binary interchange format: the widths of its fraction and exponent fields. -/
structure Format where
  fractionBits : Nat
  exponentBits : Nat

namespace Format

def double : Format := ⟨52, 11⟩

def single : Format := ⟨23, 8⟩

def bias (f : Format) : Int := Int.ofNat (1 <<< (f.exponentBits - 1)) - 1

end Format

/-- What a word stands for, its sign apart. -/
inductive Magnitude where
  /-- The value `m * 2 ^ q`. `narrow` says that the next word below is half as far away as the
  next word above. -/
  | finite (m : Nat) (q : Int) (narrow : Bool)
  | infinite
  | notANumber
  deriving DecidableEq

/-- A decoded word. -/
structure Binary where
  negative : Bool
  magnitude : Magnitude
  deriving DecidableEq

namespace Binary

/-- The meaning of the word `bits` in a format. -/
def decode (f : Format) (bits : Nat) : Binary :=
  let fraction := bits % (1 <<< f.fractionBits)
  let exponent := (bits >>> f.fractionBits) % (1 <<< f.exponentBits)
  let negative := (bits >>> (f.fractionBits + f.exponentBits)) % 2 == 1
  let lowest : Int := 1 - f.bias - f.fractionBits
  if exponent + 1 = 1 <<< f.exponentBits then
    ⟨negative, if fraction = 0 then .infinite else .notANumber⟩
  else if exponent = 0 then ⟨negative, .finite fraction lowest false⟩
  else
    ⟨negative, .finite ((1 <<< f.fractionBits) + fraction) (lowest + exponent - 1)
      (fraction = 0 ∧ 1 < exponent)⟩

def ofFloat (x : Float) : Binary := decode .double x.toBits.toNat

def ofFloat32 (x : Float32) : Binary := decode .single x.toBits.toNat

end Binary

/-- `num / den` rounded to the nearest integer, a half to the even neighbour. -/
def divEven (num den : Nat) : Nat :=
  let q := num / den
  let r := num % den
  if 2 * r < den ∨ (2 * r = den ∧ q % 2 = 0) then q else q + 1

end OpcUa.Decimal
