/-!
# Binary floating-point numbers of 64 bits

A number is held as its bit pattern, so two numbers are told apart exactly when their bits differ.
What is not a number equals nothing, but its bits can tell one occurrence of it from another.
A finite number is an integer times a power of two (`Double.scaled?`), and every comparison is made on
that exact form, also between a number and an integer.
-/

set_option autoImplicit false
set_option relaxedAutoImplicit false

namespace Statechart

/-- A binary floating-point number, given by its 64 bits. -/
structure Double where
  bits : UInt64
deriving DecidableEq, Repr, Inhabited

namespace Double

def ofFloat (x : Float) : Double := ⟨x.toBits⟩

def toFloat (d : Double) : Float := Float.ofBits d.bits

/-- The sign bit. -/
def isNegative (d : Double) : Bool := d.bits >>> 63 == 1

def exponentField (d : Double) : Nat := ((d.bits >>> 52) &&& 0x7FF).toNat

def fractionField (d : Double) : Nat := (d.bits &&& 0xFFFFFFFFFFFFF).toNat

def isNaN (d : Double) : Bool := d.exponentField == 0x7FF && d.fractionField != 0

def isInfinite (d : Double) : Bool := d.exponentField == 0x7FF && d.fractionField == 0

def isFinite (d : Double) : Bool := d.exponentField != 0x7FF

/-- The integer `m` with absolute value `m * 2 ^ exponent` for a finite number. -/
def significand (d : Double) : Nat :=
  if d.exponentField == 0 then d.fractionField else Nat.pow 2 52 + d.fractionField

/-- The power of two that goes with `significand`. -/
def exponent (d : Double) : Int :=
  if d.exponentField == 0 then -1074 else (d.exponentField : Int) - 1075

/-- The value below has half the distance of the value above. -/
def narrowBelow (d : Double) : Bool := d.fractionField == 0 && d.exponentField > 1

/-- A number as an integer times a power of two, with `none` for what is not finite. -/
def scaled? (d : Double) : Option (Int × Int) :=
  if d.isFinite then
    some (if d.isNegative then -(d.significand : Int) else d.significand, d.exponent)
  else none

/-- The order of `a * 2 ^ p` and `b * 2 ^ q`. -/
def compareScaled (a p b q : Int) : Ordering :=
  compare (a * Nat.pow 2 (p - min p q).toNat) (b * Nat.pow 2 (q - min p q).toNat)

/-- The order of two numbers, with `none` where one is not a number. -/
def compare? (a b : Double) : Option Ordering :=
  if a.isNaN || b.isNaN then none
  else match a.scaled?, b.scaled? with
    | some (m, p), some (n, q) => some (compareScaled m p n q)
    | none, some _ => some (if a.isNegative then .lt else .gt)
    | some _, none => some (if b.isNegative then .gt else .lt)
    | none, none =>
      some (if a.isNegative == b.isNegative then .eq else if a.isNegative then .lt else .gt)

/-- The order of a number and an integer, without rounding either. -/
def compareInt? (a : Double) (i : Int) : Option Ordering :=
  if a.isNaN then none
  else match a.scaled? with
    | some (m, p) => some (compareScaled m p i 0)
    | none => some (if a.isNegative then .lt else .gt)

/-- The nearest number to an integer, with `none` where it is too large for any finite one. -/
def ofInt? (i : Int) : Option Double :=
  let size := Float.ofScientific i.natAbs false 0
  let d := ofFloat (if i < 0 then -size else size)
  if d.isFinite then some d else none

def zero : Double := ⟨0⟩

/-- What is not a number, as one of many that are told apart by their marks. -/
def nanOf (mark : Nat) : Double := ⟨0x7FF8000000000000 ||| UInt64.ofNat (mark % Nat.pow 2 51)⟩

/-- The mark of what is not a number. -/
def mark (d : Double) : Nat := (d.bits &&& 0x7FFFFFFFFFFFF).toNat

/-- What is not a number, without a mark. -/
def nan : Double := nanOf 0

/-- The number as the result of a calculation, in which marks are lost. -/
def unmarked (d : Double) : Double := if d.isNaN then nan else d

def add (a b : Double) : Double := (ofFloat (a.toFloat + b.toFloat)).unmarked

def mul (a b : Double) : Double := (ofFloat (a.toFloat * b.toFloat)).unmarked

def infinity (negative : Bool) : Double :=
  ⟨if negative then 0xFFF0000000000000 else 0x7FF0000000000000⟩

/-- The number nearest to `digits * 10 ^ exponent`, with the given sign. A value beyond all finite numbers is
infinite, and one below half the least is zero, which the count of digits decides before any power is taken. -/
def ofDecimal (negative : Bool) (digits : Nat) (exponent : Int) : Double :=
  let top := exponent + (Nat.toDigits 10 digits).length
  if digits == 0 || top < -330 then ⟨if negative then 0x8000000000000000 else 0⟩
  else if 330 < top then infinity negative
  else
    let size := Float.ofScientific digits (exponent < 0) exponent.natAbs
    ofFloat (if negative then -size else size)

/-- Equality of values: a zero has no sign here, and what is not a number equals nothing. -/
def same (a b : Double) : Bool := a.compare? b == some .eq

/-- Equality of values, or one and the same occurrence of what is not a number; without a mark none is like another. -/
def alike (a b : Double) : Bool := a.same b || (a.isNaN && a != nan && a == b)

end Double

end Statechart
