import Statechart.Text.Layout
import Statechart.Value.Calendar
import Statechart.Value.Literal

/-!
# Values in fields

How a value is written under a layout. Texts are cut to the precision and padded; integers are written in a base;
numbers are written with a fixed or a significant number of digits, ties to the even neighbour.
-/

set_option autoImplicit false
set_option relaxedAutoImplicit false

namespace Statechart

open Text (Layout)

namespace Double

/-- How many digits a number shows in general writing: as few as identify it, or a given number. -/
def generalDigits (x : Double) (count : Option Nat) : List Char × Int :=
  if x.significand == 0 then (['0'], 1)
  else
    let d := match count with
      | some n => x.rounded n
      | none => x.shortest
    let digits := Decimal.figures d.digits
    (digits, d.exponent + digits.length)

def withoutTrailingZeros (cs : List Char) : List Char := (cs.reverse.dropWhile (· == '0')).reverse

/-- Digits with an exponent. -/
def exponential (digits : List Char) (point : Int) (alternate : Bool) (mark : Char) : List Char :=
  match digits with
  | [] => []
  | first :: rest =>
    let part := if rest.isEmpty && !alternate then [] else '.' :: rest
    first :: part ++ mark :: Decimal.exponentText (point - 1)

/-- Digits around a point that stands `point` digits behind their start. -/
def plainDigits (digits : List Char) (point : Int) (alternate forced : Bool) : List Char :=
  let (whole, part) := Decimal.positional digits (point - digits.length)
  if part.isEmpty then
    if forced then whole ++ ['.', '0'] else if alternate then whole ++ ['.'] else whole
  else whole ++ '.' :: part

/-- A finite absolute value in general writing; `forced` keeps a digit behind the point. -/
def general (x : Double) (count : Option Nat) (alternate forced : Bool) (mark : Char) : List Char :=
  let (digits, point) := x.generalDigits count
  let digits := match count with
    | some n =>
      if alternate then digits ++ List.replicate (n - digits.length) '0'
      else match withoutTrailingZeros digits with
        | [] => ['0']
        | ds => ds
    | none => digits
  let limit : Int := match count with
    | some n => (n : Int) - (if forced then 1 else 0)
    | none => 16
  if point ≤ -4 || limit < point then exponential digits point alternate mark
  else plainDigits digits point alternate forced

/-- A finite absolute value with a fixed number of places. -/
def places (x : Double) (count : Nat) (alternate : Bool) : List Char :=
  let (whole, part) := Decimal.positional (Decimal.figures (x.fixed count).digits) (-count)
  if part.isEmpty then (if alternate then whole ++ ['.'] else whole) else whole ++ '.' :: part

/-- A finite absolute value with an exponent and a fixed number of places. -/
def scientific (x : Double) (count : Nat) (alternate : Bool) (mark : Char) : List Char :=
  if x.significand == 0 then
    exponential ('0' :: List.replicate count '0') 1 alternate mark
  else
    let d := x.rounded (count + 1)
    let digits := Decimal.figures d.digits
    exponential digits (d.exponent + digits.length) alternate mark

/-- The absolute value in the kind of writing that a layout asks for, with `none` for an unknown kind. -/
def magnitude? (x : Double) (l : Layout) : Option (List Char) :=
  let upper := (l.kind.map Char.isUpper).getD false
  let mark := if upper then 'E' else 'e'
  let known := match l.kind with
    | none => true
    | some k => "eEfFgGn%".contains k
  if !known then none
  else if x.isNaN then some (if upper then ['N', 'A', 'N'] else ['n', 'a', 'n'])
  else if x.isInfinite then some (if upper then ['I', 'N', 'F'] else ['i', 'n', 'f'])
  else match l.kind with
    | some 'e' | some 'E' => some (x.scientific (l.precision.getD 6) l.alternate mark)
    | some 'f' | some 'F' | some '%' => some (x.places (l.precision.getD 6) l.alternate)
    | some _ => some (x.general (some (max 1 (l.precision.getD 6))) l.alternate false mark)
    | none => some (x.general (l.precision.map (max 1 ·)) l.alternate true mark)

/-- How many digits can be asked for. -/
def precisionLimit : Nat := Nat.pow 2 31 - 1

/-- A number under a layout. -/
def format (x : Double) (l : Layout) : Outcome (List Char) :=
  if l.precision.any (· > precisionLimit) then .error .badValue else
  let percent := l.kind == some '%'
  let x := if percent then x.mul (ofDecimal false 100 0) else x
  match x.magnitude? l with
  | none => .error .badValue
  | some size =>
    let size := if percent then size ++ ['%'] else size
    let digits := size.takeWhile Char.isDigit
    let isZero := size.all fun c ↦ !('1' ≤ c && c ≤ '9')
    let negative := x.isNegative && !x.isNaN && !(l.unsignedZero && isZero && x.isFinite)
    .ok (l.number negative [] digits (size.drop digits.length))

end Double

namespace Value

def formatText (s : String) (l : Layout) : Outcome (List Char) :=
  if l.sign.isSome || l.unsignedZero || l.alternate || l.separator.isSome || l.align == '=' then
    .error .badValue
  else if l.kind.isSome && l.kind != some 's' then .error .badValue
  else
    let cs := s.toList
    .ok (l.pad (match l.precision with
      | some n => cs.take n
      | none => cs))

/-- The base, its mark and whether its digits are capitals, for the kinds that write integers. -/
def baseOf : Option Char → Option (Nat × List Char)
  | none | some 'd' | some 'n' => some (10, [])
  | some 'b' => some (2, ['0', 'b'])
  | some 'o' => some (8, ['0', 'o'])
  | some 'x' => some (16, ['0', 'x'])
  | some 'X' => some (16, ['0', 'X'])
  | some _ => none

def formatInt (i : Int) (l : Layout) : Outcome (List Char) :=
  if l.kind == some 'c' then
    if l.precision.isSome || l.unsignedZero || l.sign.isSome || l.alternate then .error .badValue
    else if i < 0 || 0x10FFFF < i then .error (.plain .overflow)
    else .ok (l.number false [] [] [Char.ofNat i.toNat])
  else
    match baseOf l.kind with
    | some (base, mark) =>
      if l.precision.isSome || l.unsignedZero then .error .badValue
      else if base == 10 && (Value.int i).isTooLong then .error .badValue
      else
        let digits := Nat.toDigits base i.natAbs
        let digits := if l.kind == some 'X' then digits.map Char.toUpper else digits
        .ok (l.number (i < 0) (if l.alternate then mark else []) digits [])
    | none =>
      match Double.ofInt? i with
      | some d => if (l.kind.map ("eEfFgG%".contains ·)).getD false then d.format l else .error .badValue
      | none =>
        if (l.kind.map ("eEfFgG%".contains ·)).getD false then .error (.plain .overflow)
        else .error .badValue

/-- The value under the layout that a text asks for; without a text it is shown as it is. -/
def format (v : Value) (spec : List Char) : Outcome String :=
  if spec.isEmpty then v.shown?
  else
    let written := match v with
      | .text s | .symbol _ s => do formatText s (← Layout.read '<' spec)
      | .bool b => do formatInt (if b then 1 else 0) (← Layout.read '>' spec)
      | .int i => do formatInt i (← Layout.read '>' spec)
      | .float d => do d.format (← Layout.read '>' spec)
      | .moment m =>
        match m.render? spec with
        | some cs => .ok cs
        | none => .error .wrongType
      | _ => .error .wrongType
    written.map String.ofList

end Value

end Statechart
