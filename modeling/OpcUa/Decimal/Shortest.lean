import OpcUa.Decimal.Binary

/-!
# Shortest decimals

The decimal with the fewest digits that reads back as a given binary value. A decimal reads back
if it lies between the midpoints to the two neighbouring words, the midpoints themselves included
when the significand is even. Of the decimals with that many digits the nearest one is taken, and
the larger of two equally near ones.

All arithmetic is exact: with `m * 2 ^ q` the value, everything is counted in units of
`2 ^ (q - 2)`, in which both midpoints are integers.
-/

namespace OpcUa.Decimal

/-- The decimal `digits * 10 ^ exponent`. -/
structure Digits where
  digits : Nat
  exponent : Int
  deriving DecidableEq

namespace Digits

/-- Trailing zeros move from the digits to the exponent. -/
def strip : Nat → Digits → Digits
  | 0, d => d
  | fuel + 1, d =>
    if d.digits ≠ 0 ∧ d.digits % 10 = 0 then strip fuel ⟨d.digits / 10, d.exponent + 1⟩ else d

end Digits

/-- The number of decimal digits of `n`, at least one. -/
def digitCount (n : Nat) : Nat := (toString n).length

/-- The least `t ≤ fuel` with `den ≤ num * 10 ^ t`. -/
def leadingZeros : Nat → Nat → Nat → Nat
  | 0, _, _ => 0
  | fuel + 1, num, den => if den ≤ num then 0 else leadingZeros fuel (num * 10) den + 1

/-- The exponent `e` with `10 ^ e ≤ num / den < 10 ^ (e + 1)`, for a positive quotient. -/
def decimalExponent (num den : Nat) : Int :=
  if den ≤ num then (digitCount (num / den) : Int) - 1
  else -(leadingZeros (digitCount den) num den : Int)

/-- A value and the ends of the interval that reads back as it, as fractions of one denominator. -/
structure Interval where
  low : Nat
  value : Nat
  high : Nat
  den : Nat
  /-- Whether the ends belong to the interval. -/
  closed : Bool

namespace Interval

/-- The interval of `m * 2 ^ q`. -/
def ofBinary (m : Nat) (q : Int) (narrow : Bool) : Interval :=
  let scale := 1 <<< (q - 2).toNat
  let low := 4 * m - (if narrow then 1 else 2)
  ⟨low * scale, 4 * m * scale, (4 * m + 2) * scale, 1 <<< (2 - q).toNat, m % 2 == 0⟩

/-- Whether `n / unit` reads back, with the interval scaled by `factor`. -/
def holds (i : Interval) (factor n unit : Nat) : Bool :=
  let x := n * unit
  if i.closed then i.low * factor ≤ x && x ≤ i.high * factor
  else i.low * factor < x && x < i.high * factor

/-- The best decimal on the grid `10 ^ p`, if one of the value's two neighbours there reads back. -/
def onGrid? (i : Interval) (p : Int) : Option Digits :=
  let factor := Nat.pow 10 (-p).toNat
  let unit := i.den * Nat.pow 10 p.toNat
  let below := i.value * factor / unit
  let rest := i.value * factor % unit
  if rest = 0 then some ⟨below, p⟩
  else
    match i.holds factor below unit, i.holds factor (below + 1) unit with
    | false, false => none
    | true, false => some ⟨below, p⟩
    | false, true => some ⟨below + 1, p⟩
    | true, true => some ⟨if 2 * rest < unit then below else below + 1, p⟩

/-- The first grid from `p` downwards that has a decimal. -/
def search (i : Interval) : Nat → Int → Digits
  | 0, p => ⟨i.value * Nat.pow 10 (-p).toNat / (i.den * Nat.pow 10 p.toNat), p⟩
  | fuel + 1, p => (i.onGrid? p).getD (i.search fuel (p - 1))

end Interval

/-- The shortest decimal of the value `m * 2 ^ q`. Seventeen digits tell any two doubles apart. -/
def shortest (m : Nat) (q : Int) (narrow : Bool) : Digits :=
  if m = 0 then ⟨0, 0⟩
  else
    let i := Interval.ofBinary m q narrow
    (i.search 17 (decimalExponent i.value i.den)).strip 20

end OpcUa.Decimal
