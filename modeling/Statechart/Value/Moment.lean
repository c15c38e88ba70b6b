/-!
# Dates and times of day

A moment is a date, a time of day or both, the latter two possibly with a distance from universal time. Beside moments
stand the distance between two of them and the zone in which a moment is told.
-/

set_option autoImplicit false
set_option relaxedAutoImplicit false

namespace Statechart

structure CalendarDate where
  year : Nat
  month : Nat
  day : Nat
deriving DecidableEq, Repr

structure ClockTime where
  hour : Nat
  minute : Nat
  second : Nat
  microsecond : Nat
  /-- Seconds ahead of universal time, where known. -/
  offset : Option Int
deriving DecidableEq, Repr

inductive Moment where
  | date (d : CalendarDate)
  | time (t : ClockTime)
  | both (d : CalendarDate) (t : ClockTime)
  /-- A length of time in microseconds. -/
  | span (microseconds : Nat)
  /-- A zone, by the seconds that it is ahead of universal time. -/
  | zone (offset : Int)
deriving DecidableEq, Repr

/-- A number with zeros in front up to a width. -/
def padded (width n : Nat) : String :=
  let digits := Nat.toDigits 10 n
  String.ofList (List.replicate (width - digits.length) '0' ++ digits)

namespace CalendarDate

def isLeap (year : Nat) : Bool := year % 4 == 0 && (year % 100 != 0 || year % 400 == 0)

def monthLength (year month : Nat) : Nat :=
  if month == 2 then (if isLeap year then 29 else 28)
  else if month == 4 || month == 6 || month == 9 || month == 11 then 30 else 31

/-- The date exists in the calendar, with years from 1 to 9999. -/
def isValid (d : CalendarDate) : Bool :=
  1 ≤ d.year && d.year ≤ 9999 && 1 ≤ d.month && d.month ≤ 12
    && 1 ≤ d.day && d.day ≤ monthLength d.year d.month

def text (d : CalendarDate) : String :=
  padded 4 d.year ++ "-" ++ padded 2 d.month ++ "-" ++ padded 2 d.day

def fields (d : CalendarDate) : List String := [toString d.year, toString d.month, toString d.day]

/-- Days before the date, counted from the first day of year 1 as day 1. -/
def ordinal (d : CalendarDate) : Nat :=
  let before := d.year - 1
  365 * before + before / 4 - before / 100 + before / 400
    + (List.range (d.month - 1)).foldl (fun days m ↦ days + monthLength d.year (m + 1)) 0 + d.day

end CalendarDate

namespace ClockTime

def isValid (t : ClockTime) : Bool :=
  t.hour ≤ 23 && t.minute ≤ 59 && t.second ≤ 59 && t.microsecond ≤ 999999

def offsetText (seconds : Int) : String :=
  let size := seconds.natAbs
  (if seconds < 0 then "-" else "+") ++ padded 2 (size / 3600) ++ ":" ++ padded 2 (size / 60 % 60)
    ++ (if size % 60 == 0 then "" else ":" ++ padded 2 (size % 60))

def text (t : ClockTime) : String :=
  padded 2 t.hour ++ ":" ++ padded 2 t.minute ++ ":" ++ padded 2 t.second
    ++ (if t.microsecond == 0 then "" else "." ++ padded 6 t.microsecond)
    ++ (t.offset.map offsetText).getD ""

def zoneLiteral (seconds : Int) : String :=
  if seconds == 0 then "datetime.timezone.utc"
  else
    let day := seconds.fdiv 86400
    let rest := seconds.fmod 86400
    let parts := (if day == 0 then [] else ["days=" ++ toString day])
      ++ (if rest == 0 then [] else ["seconds=" ++ toString rest])
    "datetime.timezone(datetime.timedelta(" ++ ", ".intercalate parts ++ "))"

def fields (t : ClockTime) : List String :=
  [toString t.hour, toString t.minute]
    ++ (if t.second == 0 && t.microsecond == 0 then [] else [toString t.second])
    ++ (if t.microsecond == 0 then [] else [toString t.microsecond])
    ++ (t.offset.map fun o ↦ ["tzinfo=" ++ zoneLiteral o]).getD []

/-- Microseconds since midnight, in universal time where the offset is known. -/
def instant (t : ClockTime) : Int :=
  ((t.hour * 3600 + t.minute * 60 + t.second : Nat) - t.offset.getD 0) * 1000000 + t.microsecond

end ClockTime

/-! ### Lengths of time -/

namespace Span

def dayLength : Nat := 86400000000

/-- The days, seconds and microseconds of a length of time. -/
def parts (n : Nat) : Nat × Nat × Nat := (n / dayLength, n % dayLength / 1000000, n % 1000000)

def text (n : Nat) : String :=
  let (days, seconds, micros) := parts n
  (if days == 0 then "" else toString days ++ (if days == 1 then " day, " else " days, "))
    ++ toString (seconds / 3600) ++ ":" ++ padded 2 (seconds / 60 % 60) ++ ":" ++ padded 2 (seconds % 60)
    ++ (if micros == 0 then "" else "." ++ padded 6 micros)

def literal (n : Nat) : String :=
  let (days, seconds, micros) := parts n
  let named := [("days", days), ("seconds", seconds), ("microseconds", micros)].filter fun p ↦ p.2 != 0
  "datetime.timedelta(" ++ (if named.isEmpty then "0"
    else ", ".intercalate (named.map fun (name, n) ↦ name ++ "=" ++ toString n)) ++ ")"

end Span

/-- The name of a zone. -/
def zoneName (offset : Int) : String := if offset == 0 then "UTC" else "UTC" ++ ClockTime.offsetText offset

namespace Moment

def join (separator : String) : Moment → String
  | .date d => d.text
  | .time t => t.text
  | .both d t => d.text ++ separator ++ t.text
  | .span n => Span.text n
  | .zone o => zoneName o

/-- The standard form, with a `T` between date and time. -/
def iso (m : Moment) : String := m.join "T"

def text (m : Moment) : String := m.join " "

def kindName : Moment → String
  | .date _ => "date"
  | .time _ => "time"
  | .both _ _ => "datetime"
  | .span _ => "timedelta"
  | .zone _ => "timezone"

def literal (m : Moment) : String :=
  let called (fields : List String) : String :=
    "datetime." ++ m.kindName ++ "(" ++ ", ".intercalate fields ++ ")"
  match m with
  | .date d => called d.fields
  | .time t => called t.fields
  | .both d t => called (d.fields ++ t.fields)
  | .span n => Span.literal n
  | .zone o => ClockTime.zoneLiteral o

/-- Two moments are the same if they are of one kind and name the same point of time. -/
def same : Moment → Moment → Bool
  | .date a, .date b => a == b
  | .time a, .time b => a.offset.isSome == b.offset.isSome && a.instant == b.instant
  | .both d a, .both e b =>
    a.offset.isSome == b.offset.isSome
      && (d.ordinal : Int) * 86400000000 + a.instant == (e.ordinal : Int) * 86400000000 + b.instant
  | .span a, .span b => a == b
  | .zone a, .zone b => a == b
  | _, _ => false

end Moment

end Statechart
