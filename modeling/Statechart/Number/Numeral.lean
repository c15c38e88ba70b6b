import Statechart.Number.Double
import Statechart.Text.Blank
import Statechart.Text.Digits
import Statechart.Text.Letters

/-!
# Reading numbers

A numeral is a sign, digits of any script with a point and an exponent, or a word for infinity or for what is not a
number. Single underscores may stand between digits, and blanks around the whole. An integer has digits only.
-/

set_option autoImplicit false
set_option relaxedAutoImplicit false

namespace Statechart.Numeral

/-- Removes underscores, each of which has to stand between two digits. -/
def withoutUnderscores (afterDigit : Bool) : List Char → Option (List Char)
  | [] => some []
  | '_' :: rest =>
    if afterDigit && rest.head?.any Char.isDigit then withoutUnderscores false rest else none
  | c :: rest => (withoutUnderscores c.isDigit rest).map (c :: ·)

/-- Digits of all scripts as digits of the first. -/
def plainDigits (cs : List Char) : List Char :=
  cs.map fun c ↦ match Text.digit? c with
    | some d => Char.ofNat (48 + d)
    | none => c

/-- Digits at the front and the rest. -/
def spanDigits (cs : List Char) : List Char × List Char :=
  (cs.takeWhile Char.isDigit, cs.dropWhile Char.isDigit)

def natOf (digits : List Char) : Nat := digits.foldl (fun n c ↦ 10 * n + (c.toNat - 48)) 0

/-- A sign at the front, and the rest. -/
def sign : List Char → Bool × List Char
  | '-' :: rest => (true, rest)
  | '+' :: rest => (false, rest)
  | cs => (false, cs)

/-- The exponent of a numeral, which has to be all that is left. -/
def exponent? : List Char → Option Int
  | [] => some 0
  | c :: rest =>
    if c == 'e' || c == 'E' then
      let (negative, digits) := sign rest
      if digits.isEmpty || !digits.all Char.isDigit then none
      else some (if negative then -(natOf digits : Int) else natOf digits)
    else none

/-- An unsigned decimal number. -/
def decimal? (negative : Bool) (cs : List Char) : Option Double := do
  let (whole, rest) := spanDigits cs
  let (part, rest) := match rest with
    | '.' :: rest => spanDigits rest
    | rest => ([], rest)
  if whole.isEmpty && part.isEmpty then none
  else
    let e ← exponent? rest
    some (Double.ofDecimal negative (natOf (whole ++ part)) (e - part.length))

/-- The number that a text stands for. -/
def double? (s : String) : Option Double := do
  let cs ← withoutUnderscores false (plainDigits (Text.trimChars s.toList))
  let (negative, cs) := sign cs
  let word := Text.lower (String.ofList cs)
  if word == "inf" || word == "infinity" then some (Double.infinity negative)
  else if word == "nan" then some Double.nan
  else decimal? negative cs

/-- The most decimal digits that an integer may have where it is read or written. -/
def digitLimit : Nat := 4300

/-- The integer that a text stands for. -/
def int? (s : String) : Option Int := do
  let cs ← withoutUnderscores false (plainDigits (Text.trimChars s.toList))
  let (negative, digits) := sign cs
  if digits.isEmpty || digitLimit < digits.length || !digits.all Char.isDigit then none
  else some (if negative then -(natOf digits : Int) else natOf digits)

end Statechart.Numeral
