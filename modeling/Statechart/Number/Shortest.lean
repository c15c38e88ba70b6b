import Statechart.Number.Double

/-!
# Decimal text of a number

`Double.shortest` finds the fewest decimal digits that read back as the same number, and of those the
nearest; `Double.fixed` and `Double.rounded` find the digits for a given number of places or of digits,
with ties to the even neighbour. Every step compares exact integers. `Double.text` lays the shortest
digits out: positionally from `0.0001` up to sixteen digits, else with an exponent of at least two digits.
-/

set_option autoImplicit false
set_option relaxedAutoImplicit false

namespace Statechart

/-- The decimal number `digits * 10 ^ exponent`. -/
structure Decimal where
  digits : Nat
  exponent : Int
deriving DecidableEq, Repr

namespace Decimal

/-- The order of `a * 10 ^ i` and `n * 2 ^ j`. -/
def compareBinary (a : Nat) (i : Int) (n : Nat) (j : Int) : Ordering :=
  compare (a * Nat.pow 10 i.toNat * Nat.pow 2 (-j).toNat) (n * Nat.pow 2 j.toNat * Nat.pow 10 (-i).toNat)

/-- Moves trailing zeros of the digits into the exponent. -/
def strip : Nat → Decimal → Decimal
  | 0, d => d
  | fuel + 1, d =>
    if d.digits != 0 && d.digits % 10 == 0 then strip fuel ⟨d.digits / 10, d.exponent + 1⟩ else d

/-- The written digits, most significant first. -/
def figures (n : Nat) : List Char := Nat.toDigits 10 n

end Decimal

namespace Double

open Decimal

/-- The decimal lies among the reals that round to the absolute value of the number. -/
def readsBack (x : Double) (d : Decimal) : Bool :=
  let low := if x.narrowBelow then 4 * x.significand - 1 else 4 * x.significand - 2
  let high := 4 * x.significand + 2
  let closed := x.significand % 2 == 0
  let atLow := compareBinary d.digits d.exponent low (x.exponent - 2)
  let atHigh := compareBinary d.digits d.exponent high (x.exponent - 2)
  (atLow == .gt || (closed && atLow == .eq)) && (atHigh == .lt || (closed && atHigh == .eq))

/-- The quotient and remainder of `m * 2 ^ q` by `10 ^ e`, over a common divisor given last. -/
def divideByPower (m : Nat) (q e : Int) : Nat × Nat × Nat :=
  let top := m * Nat.pow 2 q.toNat * Nat.pow 10 (-e).toNat
  let bottom := Nat.pow 2 (-q).toNat * Nat.pow 10 e.toNat
  (top / bottom, top % bottom, bottom)

/-- The least `k` with `m * 2 ^ q < 10 ^ k`, searched upwards from a guess not above it. -/
def scaleFrom (m : Nat) (q : Int) : Nat → Int → Int
  | 0, k => k
  | fuel + 1, k => if compareBinary 1 k m q == .gt then k else scaleFrom m q fuel (k + 1)

/-- The least `k` with the absolute value below `10 ^ k`. -/
def scale (x : Double) : Int :=
  let bits : Int := (Nat.log2 x.significand : Int) + x.exponent
  scaleFrom x.significand x.exponent 8 (bits * 30103 / 100000 - 2)

/-- The neighbour of the value on the grid of `n` digits that reads back, the nearer one if both do. -/
def onGrid (x : Double) (k : Int) (n : Nat) : Option Decimal :=
  let e := k - n
  let (below, rest, bottom) := divideByPower x.significand x.exponent e
  let low : Decimal := ⟨below, e⟩
  let high : Decimal := ⟨below + 1, e⟩
  match x.readsBack low, x.readsBack high with
  | true, true => some (if 2 * rest < bottom || (2 * rest == bottom && below % 2 == 0) then low else high)
  | true, false => some low
  | false, true => some high
  | false, false => none

/-- The first grid with a hit, for `n`, `n + 1`, … digits. -/
def searchGrids (x : Double) (k : Int) : Nat → Nat → Option Decimal
  | 0, _ => none
  | fuel + 1, n => (onGrid x k n).or (searchGrids x k fuel (n + 1))

/-- The exact decimal value. -/
def exactDecimal (x : Double) : Decimal :=
  ⟨x.significand * Nat.pow 2 x.exponent.toNat * Nat.pow 5 (-x.exponent).toNat, if x.exponent < 0 then x.exponent else 0⟩

/-- The fewest digits that read back as the absolute value of a finite number. -/
def shortest (x : Double) : Decimal :=
  if x.significand == 0 then ⟨0, 0⟩
  else strip 400 ((searchGrids x x.scale 17 1).getD x.exactDecimal)

/-- The integer nearest to the absolute value over `10 ^ e`, a half going to the even neighbour. -/
def roundAt (x : Double) (e : Int) : Nat :=
  let (below, rest, bottom) := divideByPower x.significand x.exponent e
  if 2 * rest < bottom || (2 * rest == bottom && below % 2 == 0) then below else below + 1

/-- The absolute value with a fixed number of places after the point. -/
def fixed (x : Double) (places : Nat) : Decimal := ⟨x.roundAt (-places), -places⟩

/-- The absolute value with a fixed number of significant digits. -/
def rounded (x : Double) (count : Nat) : Decimal :=
  if x.significand == 0 then ⟨0, 0⟩
  else
    let e := x.scale - count
    let n := x.roundAt e
    if n == Nat.pow 10 count then ⟨Nat.pow 10 (count - 1), e + 1⟩ else ⟨n, e⟩

end Double

namespace Decimal

/-- Digits with the point `places` before their end, zeros filled in where needed. -/
def positional (digits : List Char) (exponent : Int) : List Char × List Char :=
  if 0 ≤ exponent then (digits ++ List.replicate exponent.toNat '0', [])
  else
    let places := (-exponent).toNat
    let padded := List.replicate (places + 1 - digits.length) '0' ++ digits
    (padded.take (padded.length - places), padded.drop (padded.length - places))

/-- A sign and at least two digits. -/
def exponentText (e : Int) : List Char :=
  let size := figures e.natAbs
  (if e < 0 then '-' else '+') :: (List.replicate (2 - size.length) '0' ++ size)

end Decimal

namespace Double

open Decimal

/-- The shortest text of the absolute value of a finite number. -/
def magnitudeText (x : Double) : List Char :=
  let d := x.shortest
  let digits := figures d.digits
  let point : Int := d.exponent + digits.length
  if -4 < point && point ≤ 16 then
    let (whole, part) := positional digits d.exponent
    whole ++ '.' :: (if part.isEmpty then ['0'] else part)
  else
    match digits with
    | [] => ['0']
    | first :: rest =>
      (if rest.isEmpty then [first] else first :: '.' :: rest) ++ 'e' :: exponentText (point - 1)

/-- The text that a number is written as. -/
def text (x : Double) : String :=
  if x.isNaN then "nan"
  else if x.isInfinite then (if x.isNegative then "-inf" else "inf")
  else String.ofList ((if x.isNegative then ['-'] else []) ++ x.magnitudeText)

end Double

end Statechart
