/-!
# Checksums

Sums over bytes by which a reader notices that bytes were changed.
-/

set_option autoImplicit false
set_option relaxedAutoImplicit false

namespace Statechart.Bytes

/-- Two sums modulo a prime: of the bytes, and of the sums so far. -/
def adler (bytes : List UInt8) : Nat :=
  let (a, b) := bytes.foldl (fun (a, b) x ↦
    let a := (a + x.toNat) % 65521
    (a, (b + a) % 65521)) (1, 0)
  b * 65536 + a

/-- One bit of the division of a remainder by the polynomial. -/
def cyclicStep (r : UInt32) : UInt32 := if r &&& 1 == 1 then (r >>> 1) ^^^ 0xEDB88320 else r >>> 1

def cyclicByte (r : UInt32) (x : UInt8) : UInt32 := Nat.repeat cyclicStep 8 (r ^^^ x.toUInt32)

/-- The remainder of the bytes under division by a polynomial, lowest bits first. -/
def cyclic (bytes : List UInt8) : Nat := (bytes.foldl cyclicByte 0xFFFFFFFF ^^^ 0xFFFFFFFF).toNat

end Statechart.Bytes
