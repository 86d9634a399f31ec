import RowShape.Text.Search

/-!
# Timestamps

Points in time, written as a date, a time of day and a distance from universal time.  Dates are
those of the Gregorian calendar, extended to all years.

Reading is lenient: blanks may stand before numbers, parts may have fewer digits, the date and the
time may be apart by `T`, `t` or a space, and universal time is `Z`, `z` or `UTC`.  Writing has one
form, in universal time.

## Main definitions

* `Date`: year, month and day.
* `Date.IsValid`: the day exists.
* `Date.next`, `Date.previous`: the days next to it.
* `Timestamp`: a point in time.
* `Timestamp.Fault`: what is wrong with a text.
* `Timestamp.parse`: reading.
* `Timestamp.render`: writing.
-/

namespace RowShape

/-! ### Dates -/

/-- A date.  The year before 1 is 0. -/
structure Date where
  year : Int
  month : Nat
  day : Nat
  deriving DecidableEq, Inhabited

namespace Date

/-- Every fourth year is a leap year, of full centuries every fourth one. -/
def isLeapYear (year : Int) : Bool :=
  year % 4 == 0 && (year % 100 != 0 || year % 400 == 0)

/-- The number of days of a month. -/
def daysInMonth (year : Int) (month : Nat) : Nat :=
  if month = 2 then (if isLeapYear year then 29 else 28)
  else if month ∈ [4, 6, 9, 11] then 30 else 31

/-- The first and the last year of the calendar. -/
def firstYear : Int := -262143

@[inherit_doc firstYear]
def lastYear : Int := 262142

/-- The date exists, and its year is one of the calendar. -/
def IsValid (d : Date) : Prop :=
  firstYear ≤ d.year ∧ d.year ≤ lastYear ∧ 1 ≤ d.month ∧ d.month ≤ 12 ∧
    1 ≤ d.day ∧ d.day ≤ daysInMonth d.year d.month

instance (d : Date) : Decidable d.IsValid := by unfold IsValid; infer_instance

/-- The day after a date. -/
def next (d : Date) : Date :=
  if d.day < daysInMonth d.year d.month then { d with day := d.day + 1 }
  else if d.month < 12 then ⟨d.year, d.month + 1, 1⟩
  else ⟨d.year + 1, 1, 1⟩

/-- The day before a date. -/
def previous (d : Date) : Date :=
  if 1 < d.day then { d with day := d.day - 1 }
  else if 1 < d.month then ⟨d.year, d.month - 1, daysInMonth d.year (d.month - 1)⟩
  else ⟨d.year - 1, 12, 31⟩

end Date

/-! ### Points in time -/

/-- A point in universal time.  A leap second has number 60. -/
structure Timestamp where
  date : Date
  hour : Nat
  minute : Nat
  second : Nat
  nanosecond : Nat
  deriving DecidableEq, Inhabited

namespace Timestamp

/-! ### Writing -/

/-- Digits with zeros before them, up to a width. -/
def padded (width n : Nat) : String :=
  let digits := Nat.toDigits 10 n
  String.ofList (List.replicate (width - digits.length) '0' ++ digits)

/-- A year has four digits; one of more digits, or before the year 0, has a sign. -/
def renderYear (year : Int) : String :=
  if 0 ≤ year ∧ year ≤ 9999 then padded 4 year.toNat
  else (if year < 0 then "-" else "+") ++ padded 4 year.natAbs

/-- The fraction of a second in thousandths, millionths or billionths, as far as it is needed. -/
def renderFraction (nanosecond : Nat) : String :=
  if nanosecond = 0 then ""
  else if nanosecond % 1000000 = 0 then "." ++ padded 3 (nanosecond / 1000000)
  else if nanosecond % 1000 = 0 then "." ++ padded 6 (nanosecond / 1000)
  else "." ++ padded 9 nanosecond

/-- The written form. -/
def render (t : Timestamp) : String :=
  renderYear t.date.year ++ "-" ++ padded 2 t.date.month ++ "-" ++ padded 2 t.date.day ++ "T" ++
    padded 2 t.hour ++ ":" ++ padded 2 t.minute ++ ":" ++ padded 2 t.second ++
    renderFraction t.nanosecond ++ "Z"

/-! ### Reading parts -/

/-- What is wrong with the text of a timestamp. -/
inductive Fault where
  /-- The text ends too early. -/
  | tooShort
  /-- A character does not belong where it is. -/
  | invalid
  /-- A part has no such value. -/
  | outOfRange
  /-- Something follows the timestamp. -/
  | tooLong
  deriving DecidableEq, Inhabited

/-- The wording of a fault. -/
def Fault.message : Fault → String
  | tooShort => "premature end of input"
  | invalid => "input contains invalid characters"
  | outOfRange => "input is out of range"
  | tooLong => "trailing input"

/-- Takes characters from the front of a text. -/
abbrev Scanner (α : Type) := StateT (List Char) (Except Fault) α

/-- Skips blanks. -/
def skipBlanks : Scanner Unit := modify (·.dropWhile Text.isBlank)

/-- Takes a character that has to be next. -/
def literal (c : Char) : Scanner Unit := do
  match ← get with
  | [] => throw .tooShort
  | d :: rest => if d = c then set rest else throw .invalid

/-- The number that decimal digits stand for. -/
def digitsValue (ds : List Char) : Nat :=
  ds.foldl (fun n d => 10 * n + (d.toNat - '0'.toNat)) 0

/-- Takes the digits that are next, at least one, and no more than a number of them if that is
given. -/
def digits (most : Option Nat) : Scanner (List Char) := do
  let s ← get
  let ds := (match most with
    | some n => s.take n
    | none => s).takeWhile Char.isDigit
  if ds.isEmpty then throw (if s.isEmpty then .tooShort else .invalid)
  set (s.drop ds.length)
  return ds

/-- Takes a number after blanks, of two digits at most, inside of bounds. -/
def part (least most : Nat) : Scanner Nat := do
  skipBlanks
  let n := digitsValue (← digits (some 2))
  if n < least ∨ most < n then throw .outOfRange
  return n

/-- The bounds of a signed number of 64 bits and of one of 32 bits. -/
def wideBound : Nat := Nat.pow 2 63

@[inherit_doc wideBound]
def narrowBound : Int := Int.pow 2 31

/-- Takes a year after blanks: four digits at most, or a sign and any number of digits. -/
def year : Scanner Int := do
  skipBlanks
  let unbounded (sign : Int) : Scanner Int := do
    modify (·.drop 1)
    let n := digitsValue (← digits none)
    if wideBound ≤ n then throw .outOfRange
    return sign * n
  let y ← match ← get with
    | '-' :: _ => unbounded (-1)
    | '+' :: _ => unbounded 1
    | _ => do
      let ds ← digits (some 4)
      return (digitsValue ds : Int)
  if y < -narrowBound ∨ narrowBound ≤ y then throw .outOfRange
  return y

/-- Takes the fraction of a second if one is next; digits after the ninth are skipped. -/
def fraction : Scanner Nat := do
  match ← get with
  | '.' :: rest =>
    set rest
    let ds ← digits (some 9)
    modify (·.dropWhile Char.isDigit)
    return digitsValue ds * Nat.pow 10 (9 - ds.length)
  | _ => return 0

/-- Takes two characters, the first of which is a digit up to a largest one and the second any
digit.  A digit above the largest one makes the number too large. -/
def twoDigits (largest : Char) : Scanner Nat := do
  match ← get with
  | a :: b :: rest =>
    if a.isDigit && b.isDigit then
      if largest < a then throw .outOfRange
      set rest
      return digitsValue [a, b]
    else throw .invalid
  | [a] => throw (if a.toNat < 128 then .tooShort else .invalid)
  | [] => throw .tooShort

/-- Takes the distance from universal time, in minutes. -/
def zone : Scanner Int := do
  let distance (sign : Int) : Scanner Int := do
    modify (·.drop 1)
    let hours ← twoDigits '9'
    modify (·.dropWhile fun c => c == ':' || Text.isBlank c)
    let minutes ← twoDigits '5'
    return sign * (60 * hours + minutes : Nat)
  let s ← get
  if (s.take 3).map Char.toUpper = ['U', 'T', 'C'] then
    set (s.drop 3)
    return 0
  else match s with
    | [] => throw .tooShort
    | 'Z' :: rest | 'z' :: rest => set rest; return 0
    | '+' :: _ => distance 1
    | '-' :: _ | '−' :: _ => distance (-1)
    | _ => throw .invalid

/-! ### Reading -/

/-- Moves a time that is ahead of universal time by some minutes, less than a day, to universal
time. -/
def toUniversal (t : Timestamp) (ahead : Int) : Timestamp :=
  let minutes := (60 * t.hour + t.minute : Int) - ahead
  let date := if minutes < 0 then t.date.previous
    else if 1440 ≤ minutes then t.date.next
    else t.date
  let ofDay := (minutes % 1440).toNat
  { t with date := date, hour := ofDay / 60, minute := ofDay % 60 }

/-- Takes a date, a time of day and the distance from universal time. -/
def localTime : Scanner (Timestamp × Int) := do
  let y ← year
  skipBlanks; literal '-'
  let month ← part 1 12
  skipBlanks; literal '-'
  let day ← part 1 31
  match ← get with
  | 'T' :: rest | 't' :: rest | ' ' :: rest => set rest
  | [] => throw .tooShort
  | _ => throw .invalid
  let hour ← part 0 23
  skipBlanks; literal ':'
  let minute ← part 0 59
  skipBlanks; literal ':'
  let second ← part 0 60
  let nanosecond ← fraction
  skipBlanks
  let ahead ← zone
  return (⟨⟨y, month, day⟩, hour, minute, second, nanosecond⟩, ahead)

/-- Reads a timestamp.  The date has to exist both where it was written and in universal time, and
the distance between the two is less than a day. -/
def parse (text : String) : Except Fault Timestamp := do
  let ((t, ahead), rest) ← localTime.run text.toList
  if !(rest.dropWhile Text.isBlank).isEmpty then throw .tooLong
  let u := t.toUniversal ahead
  if t.date.IsValid ∧ ahead.natAbs < 1440 ∧ u.date.IsValid then return u
  else throw .outOfRange

end Timestamp

end RowShape
