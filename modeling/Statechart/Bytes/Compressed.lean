import Statechart.Bytes.Checksum
import Statechart.Bytes.Inflate

/-!
# Compressed bytes

The three forms in which deflated bytes are handed on: as they are, between a short header and a sum, and in the form
of a file with a longer header, a sum and a length.
-/

set_option autoImplicit false
set_option relaxedAutoImplicit false

namespace Statechart.Bytes

inductive Wrapping where
  | bare
  | short
  | file
deriving DecidableEq, Repr

namespace Wrapping

open Inflate

/-- A header of two bytes: how the bytes are compressed, and a check. -/
def shortHeader : Reader Unit := do
  let first ← bits 8
  let second ← bits 8
  if (first * 256 + second) % 31 != 0 then malformed "incorrect header check"
  if first % 16 != 8 then malformed "unknown compression method"
  if first / 16 > 7 then malformed "invalid window size"
  if second / 32 % 2 == 1 then
    let _ ← bits 32
    throw .foreign

/-- Skips bytes up to a zero. -/
def skipText : Nat → Reader Unit
  | 0 => throw .starved
  | fuel + 1 => do
    if (← bits 8) != 0 then skipText fuel

def skip : Nat → Reader Unit
  | 0 => return
  | n + 1 => do
    let _ ← bits 8
    skip n

/-- The header of a file: flags tell which parts it has beside the fixed ones. -/
def fileHeader : Reader Unit := do
  let first ← bits 8
  let second ← bits 8
  if first != 0x1F || second != 0x8B then malformed "incorrect header check"
  let method ← bits 8
  let flags ← bits 8
  if method != 8 then malformed "unknown compression method"
  if flags ≥ 32 then malformed "unknown header flags set"
  skip 6
  let size := (← get).bytes.size
  if flags / 4 % 2 == 1 then skip (← bits 16)
  if flags / 8 % 2 == 1 then skipText (size + 1)
  if flags / 16 % 2 == 1 then skipText (size + 1)
  if flags / 2 % 2 == 1 then
    let p ← get
    let read := (p.bytes.toList).take (p.position / 8)
    if (← bits 16) != cyclic read % 65536 then malformed "header crc mismatch"

/-- The sum that follows, its highest byte first. -/
def shortEnd : Reader Unit := do
  align
  let a ← bits 8
  let b ← bits 8
  let c ← bits 8
  let d ← bits 8
  if ((a * 256 + b) * 256 + c) * 256 + d != adler (← get).output.toList then malformed "incorrect data check"

def fileEnd : Reader Unit := do
  align
  let out := (← get).output.toList
  if (← bits 32) != cyclic out then malformed "incorrect data check"
  if (← bits 32) != out.length % Nat.pow 2 32 then malformed "incorrect length check"

def read : Wrapping → Reader Unit
  | .bare => body
  | .short => do
    shortHeader
    body
    shortEnd
  | .file => do
    fileHeader
    body
    fileEnd

end Wrapping

/-- What stands between the bytes and their end, or why it cannot be read. -/
def inflate (w : Wrapping) (bytes : List UInt8) : Except Halt (List UInt8) :=
  let (ending, p) := StateT.run (ExceptT.run w.read) ({ bytes := bytes.toArray } : Progress)
  match ending with
  | .ok _ | .error .starved => .ok p.output.toList
  | .error halt => .error halt

end Statechart.Bytes
