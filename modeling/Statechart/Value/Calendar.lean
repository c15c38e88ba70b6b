import Statechart.Text.Letters
import Statechart.Value.Moment

/-!
# Moments under a pattern

A pattern is text with fields, each a percent sign, marks that change how the field is padded or which case it has, a
width, and a letter for what is shown. What is no field stands as it is written.
-/

set_option autoImplicit false
set_option relaxedAutoImplicit false

namespace Statechart

namespace CalendarDate

def weekdays : List String := ["Sunday", "Monday", "Tuesday", "Wednesday", "Thursday", "Friday", "Saturday"]

def months : List String :=
  ["January", "February", "March", "April", "May", "June", "July", "August", "September", "October", "November",
    "December"]

/-- The day of the week, from Sunday as 0. -/
def weekday (d : CalendarDate) : Nat := d.ordinal % 7

/-- The day of the year, from 0. -/
def dayOfYear (d : CalendarDate) : Nat := d.ordinal - (⟨d.year, 1, 1⟩ : CalendarDate).ordinal

def weekdayName (d : CalendarDate) : String := (weekdays[d.weekday]?).getD ""

def monthName (d : CalendarDate) : String := (months[d.month - 1]?).getD ""

/-- The number of the week in a year whose weeks begin on a day. -/
def weekFrom (d : CalendarDate) (firstDay : Nat) : Nat := (d.dayOfYear + 7 - (d.weekday + 7 - firstDay) % 7) / 7

/-- The Thursday of a week that begins on Monday decides to which year the week belongs. -/
def weekYear (d : CalendarDate) : Nat :=
  let thursday := d.ordinal + 3 - (d.weekday + 6) % 7
  if thursday < (⟨d.year, 1, 1⟩ : CalendarDate).ordinal then d.year - 1
  else if (⟨d.year + 1, 1, 1⟩ : CalendarDate).ordinal ≤ thursday then d.year + 1
  else d.year

/-- The number of the week in the year to which it belongs. -/
def week (d : CalendarDate) : Nat :=
  (d.ordinal + 3 - (d.weekday + 6) % 7 - (⟨d.weekYear, 1, 1⟩ : CalendarDate).ordinal) / 7 + 1

end CalendarDate

namespace Calendar

/-- The marks of a field. -/
structure Marks where
  /-- How numbers are padded: with blanks, with zeros or not at all. -/
  pad : Option Char := none
  upper : Bool := false
  swapped : Bool := false
  width : Nat := 0
  /-- A letter that asks for another form of a field. -/
  variant : Option Char := none

/-- The marks at the front of a field, and what follows them. -/
def readFlags (m : Marks) : List Char → Marks × List Char
  | '_' :: rest => readFlags { m with pad := some '_' } rest
  | '-' :: rest => readFlags { m with pad := some '-' } rest
  | '0' :: rest => readFlags { m with pad := some '0' } rest
  | '^' :: rest => readFlags { m with upper := true } rest
  | '#' :: rest => readFlags { m with swapped := true } rest
  | cs => (m, cs)

def readMarks (cs : List Char) : Marks × List Char :=
  let (m, cs) := readFlags {} cs
  let digits := cs.takeWhile Char.isDigit
  let width := digits.foldl (fun n c ↦ 10 * n + (c.toNat - 48)) 0
  let m := { m with width := min width (Nat.pow 2 31 - 1) }
  match cs.drop digits.length with
  | 'E' :: rest => ({ m with variant := some 'E' }, rest)
  | 'O' :: rest => ({ m with variant := some 'O' }, rest)
  | rest => (m, rest)

/-- What a field shows. -/
inductive Shown where
  | number (digits value : Nat)
  /-- A number that is padded with blanks unless it is marked otherwise. -/
  | spaced (digits value : Nat)
  /-- A number that is padded like a text. -/
  | count (digits : String)
  | name (text : String)
  | half (text : String)
  | lowerHalf (text : String)
  /-- Nothing, perhaps in some room. -/
  | empty (hasRoom : Bool)
  | fixed (c : Char)
  | pattern (inner : String)

/-- What a letter stands for, with the variants that it does not have. -/
def shown? (d : CalendarDate) (t : ClockTime) : Char → Option (Shown × List Char)
  | '%' => some (.fixed '%', [])
  | 'n' => some (.fixed '\n', [])
  | 't' => some (.fixed '\t', [])
  | 'a' => some (.name (String.ofList (d.weekdayName.toList.take 3)), ['E', 'O'])
  | 'A' => some (.name d.weekdayName, ['E', 'O'])
  | 'b' | 'h' => some (.name (String.ofList (d.monthName.toList.take 3)), ['E'])
  | 'B' => some (.name d.monthName, ['E'])
  | 'c' => some (.pattern "%a %b %e %H:%M:%S %Y", ['O'])
  | 'C' => some (.number 1 (d.year / 100), [])
  | 'x' => some (.pattern "%m/%d/%y", ['O'])
  | 'D' => some (.pattern "%m/%d/%y", ['E', 'O'])
  | 'd' => some (.number 2 d.day, ['E'])
  | 'e' => some (.spaced 2 d.day, ['E'])
  | 'F' => some (.pattern "%Y-%m-%d", ['E', 'O'])
  | 'H' => some (.number 2 t.hour, ['E'])
  | 'I' => some (.number 2 ((t.hour + 11) % 12 + 1), ['E'])
  | 'k' => some (.spaced 2 t.hour, ['E'])
  | 'l' => some (.spaced 2 ((t.hour + 11) % 12 + 1), ['E'])
  | 'j' => some (.number 3 (d.dayOfYear + 1), ['E'])
  | 'M' => some (.number 2 t.minute, ['E'])
  | 'm' => some (.number 2 d.month, ['E'])
  | 'P' => some (.lowerHalf (if t.hour < 12 then "AM" else "PM"), [])
  | 'p' => some (.half (if t.hour < 12 then "AM" else "PM"), [])
  | 'R' => some (.pattern "%H:%M", [])
  | 'r' => some (.pattern "%I:%M:%S %p", [])
  | 'S' => some (.number 2 t.second, ['E'])
  | 's' => some (.count (toString (((d.ordinal : Int) - 719163) * 86400 + (t.hour * 3600 + t.minute * 60 + t.second))), [])
  | 'X' => some (.pattern "%H:%M:%S", ['O'])
  | 'T' => some (.pattern "%H:%M:%S", [])
  | 'u' => some (.number 1 ((d.weekday + 6) % 7 + 1), [])
  | 'U' => some (.number 2 (d.weekFrom 0), ['E'])
  | 'V' => some (.number 2 d.week, ['E'])
  | 'g' => some (.number 2 (d.weekYear % 100), ['E'])
  | 'G' => some (.number 1 d.weekYear, ['E'])
  | 'W' => some (.number 2 (d.weekFrom 1), ['E'])
  | 'w' => some (.number 1 d.weekday, ['E'])
  | 'Y' => some (.number 1 d.year, ['O'])
  | 'y' => some (.number 2 (d.year % 100), [])
  | 'Z' => some (.empty true, [])
  | 'z' => some (.empty false, [])
  | _ => none

/-- Text widened on its left. -/
def widened (width : Nat) (fill : Char) (cs : List Char) : List Char :=
  List.replicate (width - cs.length) fill ++ cs

def upperOne (c : Char) : Char :=
  match Text.upperChar c with
  | [u] => u
  | _ => c

def withCase (m : Marks) (cs : List Char) : List Char := if m.upper then cs.map upperOne else cs

def writeText (m : Marks) (cs : List Char) : List Char := widened m.width (if m.pad == some '0' then '0' else ' ') cs

def writeNumber (m : Marks) (digits value : Nat) : List Char :=
  let cs := Nat.toDigits 10 value
  match m.pad with
  | some '-' => widened m.width ' ' cs
  | some '_' => widened (max m.width digits) ' ' cs
  | _ => widened (max m.width digits) '0' cs

/-- Fills the fields of a pattern. A field that holds a pattern is filled with what that pattern gives. -/
def fill (d : CalendarDate) (t : ClockTime) (depth : Nat) : Nat → List Char → List Char
  | 0, cs => cs
  | _ + 1, [] => []
  | fuel + 1, '%' :: rest =>
    let (m, after) := readMarks rest
    let written : List Char := '%' :: rest.take (rest.length - after.length + 1)
    match after with
    | [] => writeText m (withCase m written)
    | letter :: after =>
      let this : List Char := match shown? d t letter with
        | none => writeText m (withCase m written)
        | some (shown, refused) =>
          if m.variant.any refused.contains then
            let isMonth := letter == 'b' || letter == 'B' || letter == 'h'
            writeText m (withCase { m with upper := m.upper || (m.swapped && isMonth) } written)
          else
            match shown with
            | .number digits value => writeNumber m digits value
            | .spaced digits value =>
              writeNumber { m with pad := if m.pad == some '0' || m.pad == some '-' then m.pad else some '_' }
                digits value
            | .count s => writeText m s.toList
            | .name s => writeText m (withCase { m with upper := m.upper || m.swapped } s.toList)
            | .half s => writeText m (if m.swapped then s.toList.map Char.toLower else s.toList)
            | .lowerHalf s => writeText m (s.toList.map Char.toLower)
            | .empty hasRoom => if hasRoom && m.pad != some '-' then writeText m [] else []
            | .fixed c => writeText m [c]
            | .pattern inner =>
              match depth with
              | 0 => []
              | depth + 1 => writeText m (withCase m (fill d t depth (inner.length + 1) inner.toList))
      this ++ fill d t depth fuel after
  | fuel + 1, c :: rest => c :: fill d t depth fuel rest

/-- The distance of a zone as digits. -/
def offsetDigits (seconds : Int) : String :=
  let size := seconds.natAbs
  (if seconds < 0 then "-" else "+") ++ padded 2 (size / 3600) ++ padded 2 (size / 60 % 60)
    ++ (if size % 60 == 0 then "" else padded 2 (size % 60))

/-- A pattern whose fields for zone and microseconds, where they are written without marks, are filled. -/
def fillZone (t : ClockTime) : List Char → List Char
  | '%' :: 'z' :: rest => ((t.offset.map offsetDigits).getD "").toList ++ fillZone t rest
  | '%' :: 'Z' :: rest => ((t.offset.map zoneName).getD "").toList ++ fillZone t rest
  | '%' :: 'f' :: rest => (padded 6 t.microsecond).toList ++ fillZone t rest
  | '%' :: c :: rest => '%' :: c :: fillZone t rest
  | c :: rest => c :: fillZone t rest
  | [] => []

/-- The room that a result may take: it grows from a first size until it is large enough, or so large that a longer
result is given up. -/
def room (patternLength : Nat) : Nat → Nat → Nat
  | 0, size => size
  | fuel + 1, size => if 256 * patternLength ≤ size then size else room patternLength fuel (2 * size)

/-- A date and a time of day under a pattern. -/
def render (d : CalendarDate) (t : ClockTime) (pattern : List Char) : List Char :=
  let pattern := fillZone t pattern
  let result := fill d t 2 (pattern.length + 1) pattern
  if result.length < room pattern.length pattern.length 1024 then result else []

end Calendar

namespace Moment

/-- A moment under a pattern; only dates and times have patterns. -/
def render? (m : Moment) (pattern : List Char) : Option (List Char) :=
  match m with
  | .date d => some (Calendar.render d ⟨0, 0, 0, 0, none⟩ pattern)
  | .time t => some (Calendar.render ⟨1900, 1, 1⟩ t pattern)
  | .both d t => some (Calendar.render d t pattern)
  | .span _ | .zone _ => none

end Moment

end Statechart
