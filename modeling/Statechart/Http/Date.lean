import Statechart.Number.Numeral
import Statechart.Text.Blank
import Statechart.Text.Letters
import Statechart.Value.Moment

/-!
# Dates in headers

A date has a day, a month by its name or number and a year, then perhaps a clock, a zone and a remark; the day of the week
in front of it says nothing. Dates are read as seconds since the beginning of 1970 in universal time.
-/

set_option autoImplicit false
set_option relaxedAutoImplicit false

namespace Statechart.Http.Date

def months : List String :=
  ["jan", "feb", "mar", "apr", "may", "jun", "jul", "aug", "sep", "oct", "nov", "dec"]

def weekdays : List String := ["sun", "mon", "tue", "wed", "thu", "fri", "sat"]

/-- The number of a month from its name. -/
def month? (name : String) : Option Nat :=
  if months.contains name then some (months.idxOf name + 1) else none

/-- The days before 1970, counted like the ordinals of dates. -/
def epoch : Nat := 719163

/-- The seconds of a date with a clock. A day that its month does not have counts into the next one. -/
def seconds? (year month day hour minute second : Nat) : Option Int :=
  if 1970 ≤ year && 1 ≤ month && month ≤ 12 && 1 ≤ day && day ≤ 31 && hour ≤ 24 && minute ≤ 59 && second ≤ 61 then
    let days : Int := (CalendarDate.ordinal ⟨year, month, 1⟩ + day - 1 : Nat) - epoch
    some (((days * 24 + hour) * 60 + minute) * 60 + second)
  else none

/-! ### The usual form -/

/-- Whether a character may stand where a form has another one. -/
def fitsAt (form c : Char) : Bool :=
  match form with
  | '0' => c.isDigit
  | 'a' => c.isLower
  | 'A' => "SMTWF".toList.contains c
  | 'B' => "JFMASOND".toList.contains c
  | form => c == form

def usualForm : List Char := "Aaa, 00 Baa 0000 00:00:00 GMT".toList

def isUsual (cs : List Char) : Bool :=
  cs.length == usualForm.length && (List.zipWith fitsAt usualForm cs).all id

/-- The number that some characters of a text stand for. -/
def numberAt (cs : List Char) (place count : Nat) : Nat := Numeral.natOf ((cs.drop place).take count)

/-! ### Looser forms -/

def isSpace (c : Char) : Bool := c == ' ' || (9 ≤ c.toNat && c.toNat ≤ 13)

def isWord (c : Char) : Bool := c.isAlphanum || c == '_'

/-- The digits in front, at least and at most so many. -/
def digits? (least most : Nat) (cs : List Char) : Option (List Char × List Char) :=
  let ds := (cs.take most).takeWhile Char.isDigit
  if least ≤ ds.length then some (ds, cs.drop ds.length) else none

/-- What stands behind the blanks in front, of which there has to be one, or behind one of some marks. -/
def behindGap? (marks : List Char) : List Char → Option (List Char)
  | c :: rest =>
    if isSpace c then some (rest.dropWhile isSpace) else if marks.contains c then some rest else none
  | [] => none

def withoutWeekday (cs : List Char) : List Char :=
  let name := String.ofList ((cs.take 3).map Char.toLower)
  if weekdays.contains name then
    match cs.dropWhile Char.isAlpha with
    | ',' :: rest => rest.dropWhile isSpace
    | rest => rest.dropWhile isSpace
  else cs

/-- Hour, minute and second; without a clock all are zero. -/
def clock (cs : List Char) : (Nat × Nat × Nat) × List Char :=
  let read : Option ((Nat × Nat × Nat) × List Char) := do
    let (hour, rest) ← digits? 1 2 (← behindGap? [':'] cs)
    let ':' :: rest := rest | none
    let (minute, rest) ← digits? 2 2 rest
    let time (second : List Char) := (Numeral.natOf hour, Numeral.natOf minute, Numeral.natOf second)
    match rest with
    | ':' :: after =>
      match digits? 2 2 after with
      | some (second, after) => return (time second, after)
      | none => return (time [], rest)
    | _ => return (time [], rest)
  read.getD ((0, 0, 0), cs)

/-- A zone by its name or by its distance, empty if there is none. Half a day is no zone. -/
def zone (cs : List Char) : List Char × List Char :=
  let (sign, rest) := match cs with
    | c :: rest => if c == '-' || c == '+' then ([c], rest) else ([], cs)
    | [] => ([], [])
  match digits? 2 4 rest with
  | some (ds, rest) => (sign ++ ds, rest)
  | none =>
    let letters := cs.takeWhile Char.isAlpha
    let isHalf := ["am", "pm"].contains (String.ofList (letters.map Char.toLower))
      && !((cs.drop letters.length).head?.any isWord)
    if isHalf then ([], cs) else (letters, cs.drop letters.length)

/-- What follows a remark in brackets, if there is one. -/
def withoutRemark : List Char → List Char
  | '(' :: rest =>
    let word := rest.takeWhile isWord
    match rest.drop word.length with
    | ')' :: after => if word.isEmpty then '(' :: rest else after.dropWhile isSpace
    | _ => '(' :: rest
  | cs => cs

/-- The distance of a zone in seconds. -/
def distance? (zone : List Char) : Option Int :=
  if ["", "GMT", "UTC", "UT", "Z"].contains (String.ofList (zone.map Char.toUpper)) then some 0
  else
    let ds := zone.dropWhile fun c ↦ c == '-' || c == '+'
    if ds.isEmpty || !ds.all Char.isDigit then none
    else
      let width := if ds.length == 3 then 1 else 2
      let size : Int := 3600 * Numeral.natOf (ds.take width) + 60 * Numeral.natOf (ds.drop width)
      some (if zone.head? == some '-' then -size else size)

/-- A year of few digits is the one nearest to the present year that ends in them. -/
def fullYear (present year : Nat) : Nat :=
  if 1000 ≤ year then year
  else
    let near := year + present - present % 100
    if year + 50 < present % 100 then near + 100
    else if present % 100 + 50 < year then near - 100
    else near

/-- The time of the parts of a date, none where they are no date; no answer where a number cannot be read. -/
def assemble (present : Nat) (day month year : List Char) (clock : Nat × Nat × Nat) (zone : List Char) :
    Option (Option Int) := do
  let year ← Numeral.int? (String.ofList year)
  if 9999 < year then return none
  let month := (month? (String.ofList (month.map Char.toLower))).or do
    let n ← Numeral.int? (String.ofList month)
    if 1 ≤ n && n ≤ 12 then some n.toNat else none
  return do
    let (hour, minute, second) := clock
    let t ← seconds? (fullYear present year.toNat) (← month) (Numeral.natOf day) hour minute second
    return t - (← distance? zone)

/-- A date in a looser form. -/
def loose (present : Nat) (cs : List Char) : Option (Option Int) :=
  let parts : Option (List Char × List Char × List Char × (Nat × Nat × Nat) × List Char) := do
    let (day, rest) ← digits? 1 2 (withoutWeekday (Text.trimLeft cs))
    let rest ← behindGap? ['-', '/'] rest
    let month := rest.takeWhile isWord
    if month.isEmpty then none
    let rest ← behindGap? ['-', '/'] (rest.drop month.length)
    let year := rest.takeWhile Char.isDigit
    if year.isEmpty then none
    let (time, rest) := clock (rest.drop year.length)
    let (zone, rest) := zone (rest.dropWhile isSpace)
    if (withoutRemark (rest.dropWhile isSpace)).isEmpty then some (day, month, year, time, zone) else none
  match parts with
  | none => some none
  | some (day, month, year, time, zone) => assemble present day month year time zone

/-- The time of a date, none if it is no date; no answer where a month or a number cannot be read at all. -/
def read (present : Nat) (text : String) : Option (Option Int) :=
  let cs := text.toList
  if isUsual cs then do
    let month ← month? (String.ofList (((cs.drop 8).take 3).map Char.toLower))
    return seconds? (numberAt cs 12 4) month (numberAt cs 5 2) (numberAt cs 17 2) (numberAt cs 20 2) (numberAt cs 23 2)
  else loose present cs

end Statechart.Http.Date
