/-!
# Unicode in bytes

Four ways of writing code points as bytes, read character by character. Where bytes stand for no character, as few of them
are passed over as cannot begin one, and nothing stands for them.
-/

set_option autoImplicit false
set_option relaxedAutoImplicit false

namespace Statechart.Text

/-- Characters read from bytes, with nothing where the bytes stand for none. -/
abbrev Glyphs := List (Option Char)

namespace Charset.Unicode

def isHigh (n : Nat) : Bool := 0xD800 ≤ n && n < 0xDC00

def isLow (n : Nat) : Bool := 0xDC00 ≤ n && n < 0xE000

/-- The character of a code point that is one. -/
def glyph? (n : Nat) : Option Char := if n < 0x110000 && !(isHigh n || isLow n) then some (Char.ofNat n) else none

/-- The character of two halves. -/
def joined (high low : Nat) : Char := Char.ofNat (0x10000 + (high - 0xD800) * 0x400 + (low - 0xDC00))

/-! ### One to four bytes -/

/-- How many bytes follow a first byte, and between which bounds the next of them lies. -/
def following (b : UInt8) : Option (Nat × UInt8 × UInt8) :=
  if b < 0xC2 then none
  else if b < 0xE0 then some (1, 0x80, 0xBF)
  else if b < 0xF0 then some (2, if b == 0xE0 then 0xA0 else 0x80, if b == 0xED then 0x9F else 0xBF)
  else if b < 0xF5 then some (3, if b == 0xF0 then 0x90 else 0x80, if b == 0xF4 then 0x8F else 0xBF)
  else none

/-- The bytes that go on a character, of a number of them at most. -/
def continued : Nat → UInt8 → UInt8 → List UInt8 → List UInt8
  | n + 1, low, high, b :: rest => if low ≤ b && b ≤ high then b :: continued n 0x80 0xBF rest else []
  | _, _, _, _ => []

def utf8 : Nat → List UInt8 → Glyphs
  | 0, _ => []
  | _, [] => []
  | fuel + 1, b :: rest =>
    if b < 0x80 then some (Char.ofNat b.toNat) :: utf8 fuel rest
    else
      match following b with
      | none => none :: utf8 fuel rest
      | some (n, low, high) =>
        let more := continued n low high rest
        let first := b.toNat % Nat.pow 2 (6 - n)
        let c := if more.length == n then glyph? (more.foldl (fun c d ↦ c * 64 + d.toNat % 64) first) else none
        c :: utf8 fuel (rest.drop more.length)

/-- The mark that may stand in front of a text. -/
def mark8 : List UInt8 := [0xEF, 0xBB, 0xBF]

/-! ### Two bytes, or twice two -/

/-- A number of two bytes, the greater first or last. -/
def unit (big : Bool) (a b : UInt8) : Nat := if big then a.toNat * 256 + b.toNat else b.toNat * 256 + a.toNat

def utf16 (big : Bool) : List UInt8 → Glyphs
  | [] => []
  | [_] => [none]
  | a :: b :: rest =>
    let n := unit big a b
    if isHigh n then
      match rest with
      | c :: d :: after =>
        if isLow (unit big c d) then some (joined n (unit big c d)) :: utf16 big after
        else none :: utf16 big (c :: d :: after)
      | _ => [none]
    else glyph? n :: utf16 big rest

/-! ### Four bytes -/

def utf32 (big : Bool) : List UInt8 → Glyphs
  | a :: b :: c :: d :: rest =>
    let n := if big then unit true a b * 65536 + unit true c d else unit false c d * 65536 + unit false a b
    glyph? n :: utf32 big rest
  | [] => []
  | _ => [none]

/-! ### Signs of six bits -/

/-- The six bits of a sign. -/
def sextet? (b : UInt8) : Option Nat :=
  let c := Char.ofNat b.toNat
  if 'A' ≤ c && c ≤ 'Z' then some (c.toNat - 65)
  else if 'a' ≤ c && c ≤ 'z' then some (c.toNat - 71)
  else if c.isDigit then some (c.toNat + 4)
  else if c == '+' then some 62
  else if c == '/' then some 63
  else none

/-- Where reading stands within signs: bits that are left over, and the first half of a character. -/
structure Shift where
  bits : Nat := 0
  value : Nat := 0
  half : Option Nat := none

/-- Takes a sign: what it completes, and where reading stands then. -/
def Shift.take (s : Shift) (six : Nat) : Glyphs × Shift :=
  let value := s.value * 64 + six
  let bits := s.bits + 6
  if bits < 16 then ([], { s with bits := bits, value := value })
  else
    let n := value / Nat.pow 2 (bits - 16)
    let next : Shift := { bits := bits - 16, value := value % Nat.pow 2 (bits - 16) }
    let lost : Glyphs := if s.half.isSome then [none] else []
    if isHigh n then (lost, { next with half := some n })
    else
      match s.half with
      | some high => if isLow n then ([some (joined high n)], next) else ([none, glyph? n], next)
      | none => ([glyph? n], next)

/-- Bits are left over that no character has. -/
def Shift.isCut (s : Shift) : Bool := 6 ≤ s.bits || (0 < s.bits && s.value != 0)

/-- Reads text in which a plus begins signs; `shift` is where reading stands within signs. -/
def utf7 : Option Shift → List UInt8 → Glyphs
  | none, [] => []
  | some s, [] => if s.half.isSome || s.isCut then [none] else []
  | some s, b :: rest =>
    match sextet? b with
    | some six =>
      let (done, s) := s.take six
      done ++ utf7 (some s) rest
    | none =>
      if s.isCut then none :: utf7 none rest
      else
        let lost : Glyphs := if s.half.isSome && b < 0x80 then [none] else []
        if b == 0x2D then lost ++ utf7 none rest
        else if b < 0x80 then lost ++ some (Char.ofNat b.toNat) :: utf7 none rest
        else lost ++ none :: utf7 none rest
  | none, b :: rest =>
    if b == 0x2B then
      match rest with
      | c :: after =>
        if c == 0x2D then some '+' :: utf7 none after
        else if (sextet? c).isSome then utf7 (some {}) (c :: after)
        else none :: utf7 none after
      | [] => utf7 (some {}) []
    else if b < 0x80 then some (Char.ofNat b.toNat) :: utf7 none rest
    else none :: utf7 none rest

end Charset.Unicode

end Statechart.Text
