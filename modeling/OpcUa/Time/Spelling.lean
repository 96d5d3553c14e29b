import OpcUa.Text.Blank
import OpcUa.Text.Numeral
import OpcUa.Time.Duration

/-!
# Spelled durations

Durations as people write them, such as `1h 30m`.

* `Duration.spell`: the nonzero parts from years down to nanoseconds.
* `Duration.ofSpelling?`: a sum of numbers with units, in any order. A number may have a decimal
  fraction if the result is exact.
-/

namespace OpcUa.Duration

/-- A unit of time. -/
structure TimeUnit where
  /-- The length in nanoseconds. -/
  nanos : Nat
  /-- Whole units are counted in quanta of this length, and their number has to be a 64-bit word. -/
  quantum : Nat
  /-- A fraction of a unit has to be a whole number of grains, a 64-bit word as well. -/
  grain : Option Nat
  names : List String

/-- The units. Fractions of hours and longer units have to be whole seconds; a nanosecond has no
fraction. -/
def timeUnits : List TimeUnit :=
  [⟨1, 1, none, ["nanos", "nsec", "ns"]⟩,
   ⟨1000, 1, some 1, ["usec", "us", "µs"]⟩,
   ⟨1000000, 1, some 1, ["millis", "msec", "ms"]⟩,
   ⟨perSecond, perSecond, some 1, ["seconds", "second", "secs", "sec", "s"]⟩,
   ⟨60 * perSecond, perSecond, some 1, ["minutes", "minute", "min", "mins", "m"]⟩,
   ⟨3600 * perSecond, perSecond, some perSecond, ["hours", "hour", "hrs", "hr", "h"]⟩,
   ⟨86400 * perSecond, perSecond, some perSecond, ["days", "day", "d"]⟩,
   ⟨604800 * perSecond, perSecond, some perSecond, ["weeks", "week", "wks", "wk", "w"]⟩,
   ⟨2630016 * perSecond, perSecond, some perSecond, ["months", "month", "M"]⟩,
   ⟨31557600 * perSecond, perSecond, some perSecond, ["years", "year", "yrs", "yr", "y"]⟩]

def timeUnit? (name : String) : Option TimeUnit := timeUnits.find? (·.names.contains name)

/-! ## Reading -/

/-- The digits at the start of `cs`, blanks between them left out. -/
def spacedDigits : List Char → List Char × List Char
  | [] => ([], [])
  | c :: rest =>
    if c.isDigit then
      let (ds, rest) := spacedDigits rest
      (c :: ds, rest)
    else if Text.isBlank c then spacedDigits rest
    else ([], c :: rest)

/-- A decimal number: its digits before and after the point, and the rest. -/
def amount? (cs : List Char) : Option (List Char × List Char × List Char) :=
  let (whole, rest) := spacedDigits cs
  if whole.isEmpty then none
  else
    match rest with
    | '.' :: rest =>
      let (fraction, rest) := spacedDigits rest
      if fraction.isEmpty then none else some (whole, fraction, rest)
    | rest => some (whole, [], rest)

/-- A number that is a 64-bit word. -/
def word? (n : Nat) : Option Nat := if n < UInt64.size then some n else none

/-- The nanoseconds of whole units. -/
def wholeNanos? (u : TimeUnit) (ds : List Char) : Option Nat := do
  let n ← word? (Text.ofDigits ds)
  let quanta ← word? (n * (u.nanos / u.quantum))
  return quanta * u.quantum

/-- The nanoseconds of a decimal fraction of a unit. -/
def fractionNanos? (u : TimeUnit) (ds : List Char) : Option Nat :=
  if ds.isEmpty then some 0
  else do
    let grain ← u.grain
    let scale ← word? (Nat.pow 10 ds.length)
    let scaled ← word? (Text.ofDigits ds * (u.nanos / grain))
    if scaled % scale = 0 then return scaled / scale * grain else none

/-- A total with an amount in unit `u` added. An amount counted in nanoseconds is added to those
past the last whole second, and the sum has to be a 64-bit word. -/
def add? (u : TimeUnit) (total amount : Nat) : Option Nat := do
  let _ ← word? (if u.quantum = perSecond then 0 else total % perSecond + amount)
  if total + amount < UInt64.size * perSecond then return total + amount else none

/-- The characters of a unit's name: all up to a blank or a digit. -/
def isNameChar (c : Char) : Bool := !(Text.isBlank c || c.isDigit)

/-- The sum of the amounts in `cs`, in nanoseconds. -/
def sum? : Nat → Nat → List Char → Option Nat
  | 0, _, _ => none
  | fuel + 1, total, cs => do
    let (whole, fraction, rest) ← amount? cs
    let u ← timeUnit? (String.ofList (rest.takeWhile isNameChar))
    let total ← add? u total (← wholeNanos? u whole)
    let total ← add? u total (← fractionNanos? u fraction)
    let rest := (rest.dropWhile isNameChar).dropWhile Text.isBlank
    if rest.isEmpty then return total else sum? fuel total rest

/-- The duration that a text spells. A bare `0` is the only number without a unit. -/
def ofSpelling? (s : String) : Option Duration :=
  if s = "0" then some zero
  else (sum? (s.length + 1) 0 s.toList).bind ofNanos?

/-! ## Writing -/

/-- One part, with `s` added to a name that has a plural. -/
def spellPart (n : Nat) (name : String) (plural : Bool) : List String :=
  if n = 0 then [] else [toString n ++ name ++ (if plural && 1 < n then "s" else "")]

/-- The parts of a duration that are not zero, the longest unit first. -/
def parts (d : Duration) : List String :=
  let secs := d.secs.toNat
  let inYear := secs % 31557600
  let inMonth := inYear % 2630016
  let inDay := inMonth % 86400
  spellPart (secs / 31557600) "year" true ++ spellPart (inYear / 2630016) "month" true ++
    spellPart (inMonth / 86400) "day" true ++ spellPart (inDay / 3600) "h" false ++
    spellPart (inDay % 3600 / 60) "m" false ++ spellPart (inDay % 60) "s" false ++
    spellPart (d.nanos / 1000000) "ms" false ++ spellPart (d.nanos / 1000 % 1000) "us" false ++
    spellPart (d.nanos % 1000) "ns" false

def spell (d : Duration) : String :=
  if d.isZero then "0s" else String.intercalate " " d.parts

end OpcUa.Duration
