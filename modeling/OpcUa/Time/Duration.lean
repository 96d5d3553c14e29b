import OpcUa.Decimal.Binary

/-!
# Durations

A span of time of up to `2 ^ 64` seconds, in whole nanoseconds.

* `Duration.ofNanos?`: the duration of a number of nanoseconds, if it is not too long.
* `Duration.ofSeconds?`: the duration nearest to a number of seconds given as a double.
* `Duration.diagnostic`: the text in the largest unit that has a whole part.
-/

namespace OpcUa

structure Duration where
  secs : UInt64
  nanos : Nat
  nanos_lt : nanos < 1000000000
  deriving DecidableEq

namespace Duration

/-- Nanoseconds in a second. -/
def perSecond : Nat := 1000000000

def zero : Duration := ⟨0, 0, by decide⟩

instance : Inhabited Duration := ⟨zero⟩

/-- The number of nanoseconds. -/
def toNanos (d : Duration) : Nat := d.secs.toNat * perSecond + d.nanos

/-- The duration of `n` nanoseconds, its whole seconds reduced modulo `2 ^ 64`. -/
def wrapNanos (n : Nat) : Duration :=
  ⟨UInt64.ofNat (n / perSecond), n % perSecond, Nat.mod_lt _ (by decide)⟩

def ofNanos? (n : Nat) : Option Duration :=
  if n < UInt64.size * perSecond then some (wrapNanos n) else none

def ofSecs (secs : UInt64) : Duration := ⟨secs, 0, by decide⟩

def ofMillis (n : UInt64) : Duration := wrapNanos (n.toNat * 1000000)

def ofMicros (n : UInt64) : Duration := wrapNanos (n.toNat * 1000)

def isZero (d : Duration) : Bool := d.toNanos == 0

/-- Whole milliseconds. -/
def toMillis (d : Duration) : Nat := d.toNanos / 1000000

/-- Whole microseconds. -/
def toMicros (d : Duration) : Nat := d.toNanos / 1000

/-- Milliseconds, an incomplete one counted as a whole one. -/
def ceilMillis (d : Duration) : Nat := (d.toNanos + 999999) / 1000000

/-! ## Seconds as a double -/

/-- Seconds, as the sum of the doubles nearest to the whole seconds and to the rest. -/
def toSeconds (d : Duration) : Float := d.secs.toFloat + Float.ofNat d.nanos / 1e9

/-- The nanoseconds nearest to `m * 2 ^ q` seconds, a half to the even neighbour. -/
def nearestNanos (m : Nat) (q : Int) : Nat :=
  Decimal.divEven ((m * perSecond) <<< q.toNat) (1 <<< (-q).toNat)

/-- The duration nearest to `x` seconds. There is none for a negative number, for one that is not
finite and for one of `2 ^ 64` or more. -/
def ofSeconds? (x : Float) : Option Duration :=
  let b := Decimal.Binary.ofFloat x
  match b.magnitude with
  | .finite m q _ =>
    if b.negative ∧ m ≠ 0 then none else ofNanos? (nearestNanos m q)
  | _ => none

/-! ## Text -/

/-- A number with a fraction of `places` digits, without trailing zeros. -/
def withFraction (whole fraction places : Nat) : String :=
  let ds := (toString fraction).toList
  let ds := List.replicate (places - ds.length) '0' ++ ds
  let ds := (ds.reverse.dropWhile (· == '0')).reverse
  if ds.isEmpty then toString whole else toString whole ++ String.ofList ('.' :: ds)

/-- The largest of seconds, milliseconds, microseconds and nanoseconds with a nonzero whole part,
and the rest as a decimal fraction of it. -/
def diagnostic (d : Duration) : String :=
  if d.secs ≠ 0 then withFraction d.secs.toNat d.nanos 9 ++ "s"
  else if 1000000 ≤ d.nanos then withFraction (d.nanos / 1000000) (d.nanos % 1000000) 6 ++ "ms"
  else if 1000 ≤ d.nanos then withFraction (d.nanos / 1000) (d.nanos % 1000) 3 ++ "µs"
  else toString d.nanos ++ "ns"

end Duration

end OpcUa
