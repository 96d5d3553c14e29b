import OpcUa.Text.Blank
import OpcUa.Text.Numeral

/-!
# Timestamps

Points of time in UTC and their calendar text.

* `Timestamp.ofText?`: reads a date, a time and an offset. `T`, `t` or a blank stands between date
  and time, blanks are allowed between the parts, and the offset is `Z`, `z`, `UTC` or hours and
  minutes.
* `Timestamp.toText`: writes a time with a fraction of none, three, six or nine digits.
-/

namespace OpcUa

/-- A point of time: seconds since 1970, and the nanoseconds after them. A second that is followed
by a leap second has nanoseconds up to `2 * 10 ^ 9`. -/
structure Timestamp where
  secs : Int
  nanos : Nat
  deriving DecidableEq, Inhabited

namespace Timestamp

def ofMillis (ms : Int) : Timestamp := ⟨ms.fdiv 1000, (ms.fmod 1000).toNat * 1000000⟩

def toMillis (t : Timestamp) : Int := t.secs * 1000 + t.nanos / 1000000

/-! ## Calendar -/

/-- Days from 1970-01-01 to a date of the Gregorian calendar. Years are counted from March, so
that the leap day is the last day of its year. -/
def daysFromCivil (year : Int) (month day : Nat) : Int :=
  let y := if month ≤ 2 then year - 1 else year
  let era := y.fdiv 400
  let yearOfEra := y.fmod 400
  let dayOfYear : Int := (153 * (if month ≤ 2 then month + 9 else month - 3) + 2) / 5 + day - 1
  let dayOfEra := yearOfEra * 365 + yearOfEra / 4 - yearOfEra / 100 + dayOfYear
  era * 146097 + dayOfEra - 719468

/-- The year, month and day that are `days` after 1970-01-01. -/
def civilFromDays (days : Int) : Int × Nat × Nat :=
  let z := days + 719468
  let era := z.fdiv 146097
  let dayOfEra := (z.fmod 146097).toNat
  let yearOfEra := (dayOfEra - dayOfEra / 1460 + dayOfEra / 36524 - dayOfEra / 146096) / 365
  let dayOfYear := dayOfEra - (365 * yearOfEra + yearOfEra / 4 - yearOfEra / 100)
  let m := (5 * dayOfYear + 2) / 153
  let day := dayOfYear - (153 * m + 2) / 5 + 1
  let month := if m < 10 then m + 3 else m - 9
  let year : Int := yearOfEra + era * 400 + (if month ≤ 2 then 1 else 0)
  (year, month, day)

def isLeapYear (year : Int) : Bool :=
  year % 4 == 0 && (year % 100 != 0 || year % 400 == 0)

def daysInMonth (year : Int) : Nat → Nat
  | 2 => if isLeapYear year then 29 else 28
  | 4 | 6 | 9 | 11 => 30
  | _ => 31

/-- The years of the calendar. -/
def isYear (year : Int) : Bool := -262143 ≤ year && year ≤ 262142

/-- The point of time `ms` milliseconds after 1970, unless it is outside of the calendar. -/
def ofMillis? (ms : Int) : Option Timestamp :=
  let t := ofMillis ms
  if isYear (civilFromDays (t.secs.fdiv 86400)).1 then some t else none

/-! ## Writing -/

def padded (width n : Nat) : String :=
  let text := toString n
  String.ofList (List.replicate (width - text.length) '0') ++ text

/-- The fraction of a second in none, three, six or nine digits, the fewest that are exact. -/
def fraction (nanos : Nat) : String :=
  if nanos = 0 then ""
  else if nanos % 1000000 = 0 then "." ++ padded 3 (nanos / 1000000)
  else if nanos % 1000 = 0 then "." ++ padded 6 (nanos / 1000)
  else "." ++ padded 9 nanos

/-- A year in four digits, one outside of 0 to 9999 with a sign. -/
def yearText (year : Int) : String :=
  if 0 ≤ year ∧ year ≤ 9999 then padded 4 year.toNat
  else (if year < 0 then "-" else "+") ++ padded 4 year.natAbs

/-- Date and time in UTC, followed by `zone`. -/
def toText (zone : String) (t : Timestamp) : String :=
  let (year, month, day) := civilFromDays (t.secs.fdiv 86400)
  let s := (t.secs.fmod 86400).toNat
  let (second, nanos) :=
    if 1000000000 ≤ t.nanos then (s % 60 + 1, t.nanos - 1000000000) else (s % 60, t.nanos)
  yearText year ++ "-" ++ padded 2 month ++ "-" ++ padded 2 day ++ "T" ++ padded 2 (s / 3600) ++
    ":" ++ padded 2 (s / 60 % 60) ++ ":" ++ padded 2 second ++ fraction nanos ++ zone

/-! ## Reading -/

def skipBlanks (cs : List Char) : List Char := cs.dropWhile Text.isBlank

/-- A number of one to `width` digits, after blanks. -/
def number? (width : Nat) (cs : List Char) : Option (Nat × List Char) :=
  let cs := skipBlanks cs
  let ds := (cs.takeWhile Char.isDigit).take width
  if ds.isEmpty then none else some (Text.ofDigits ds, cs.drop ds.length)

/-- A year: up to four digits, or any number of digits after a sign. -/
def year? (cs : List Char) : Option (Int × List Char) :=
  match skipBlanks cs with
  | '-' :: rest => (number? rest.length rest).map fun (n, rest) => (-(n : Int), rest)
  | '+' :: rest => (number? rest.length rest).map fun (n, rest) => ((n : Int), rest)
  | rest => (number? 4 rest).map fun (n, rest) => ((n : Int), rest)

/-- The rest after `mark`, with blanks around it. -/
def mark? (mark : Char) (cs : List Char) : Option (List Char) :=
  match skipBlanks cs with
  | c :: rest => if c = mark then some rest else none
  | [] => none

/-- The fraction of a second in nanoseconds; digits after the ninth do not count. -/
def fraction? : List Char → Option (Nat × List Char)
  | '.' :: rest =>
    let ds := rest.takeWhile Char.isDigit
    if ds.isEmpty then none
    else
      let used := ds.take 9
      some (Text.ofDigits used * Nat.pow 10 (9 - used.length), rest.dropWhile Char.isDigit)
  | rest => some (0, rest)

/-- Exactly two digits. -/
def pair? : List Char → Option (Nat × List Char)
  | a :: b :: rest =>
    if a.isDigit ∧ b.isDigit then some (Text.ofDigits [a, b], rest) else none
  | _ => none

/-- An offset from UTC in seconds. -/
def offset? (cs : List Char) : Option (Int × List Char) :=
  if (cs.take 3).map Char.toLower = ['u', 't', 'c'] then some (0, cs.drop 3)
  else
    match cs with
    | 'Z' :: rest | 'z' :: rest => some (0, rest)
    | sign :: rest => do
      let negative ← match sign with
        | '+' => some false
        | '-' | '\u2212' => some true
        | _ => none
      let (hours, rest) ← pair? rest
      let (minutes, rest) ← pair? (rest.dropWhile fun c => c == ':' || Text.isBlank c)
      guard (minutes ≤ 59 ∧ hours ≤ 23)
      let secs : Int := hours * 3600 + minutes * 60
      return (if negative then -secs else secs, rest)
    | [] => none

def ofChars? (cs : List Char) : Option Timestamp := do
  let (year, cs) ← year? cs
  let cs ← mark? '-' cs
  let (month, cs) ← number? 2 cs
  let cs ← mark? '-' cs
  let (day, cs) ← number? 2 cs
  let cs ← match cs with
    | 'T' :: rest | 't' :: rest | ' ' :: rest => some rest
    | _ => none
  let (hour, cs) ← number? 2 cs
  let cs ← mark? ':' cs
  let (minute, cs) ← number? 2 cs
  let cs ← mark? ':' cs
  let (second, cs) ← number? 2 cs
  let (nanos, cs) ← fraction? cs
  let (offset, cs) ← offset? (skipBlanks cs)
  guard (skipBlanks cs).isEmpty
  guard (1 ≤ month ∧ month ≤ 12 ∧ 1 ≤ day ∧ day ≤ daysInMonth year month)
  guard (hour ≤ 23 ∧ minute ≤ 59 ∧ second ≤ 60)
  let (second, nanos) := if second = 60 then (59, nanos + 1000000000) else (second, nanos)
  let secs := daysFromCivil year month day * 86400 + (hour * 3600 + minute * 60 + second : Nat)
  let utc := secs - offset
  guard (isYear year && isYear (civilFromDays (utc.fdiv 86400)).1)
  return ⟨utc, nanos⟩

def ofText? (s : String) : Option Timestamp := ofChars? s.toList

end Timestamp

end OpcUa
