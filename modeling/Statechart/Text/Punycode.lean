/-!
# Punycode

Letters beyond ASCII can be written in ASCII, as in names of hosts: the letters that are in ASCII first, then for each
other letter, in the order of code points, how far it lies from the one before, in digits of base 36 whose weight adapts.
-/

set_option autoImplicit false
set_option relaxedAutoImplicit false

namespace Statechart.Text.Punycode

def digit (d : Nat) : Char := if d < 26 then Char.ofNat (97 + d) else Char.ofNat (22 + d)

/-- The weight at which a number may end. -/
def threshold (bias position : Nat) : Nat := max 1 (min 26 (position - bias))

theorem threshold_pos (bias position : Nat) : 1 ≤ threshold bias position := Nat.le_max_left _ _

/-- The digits of a number, the lightest first. -/
def digits (bias position n : Nat) : List Char :=
  let t := threshold bias position
  if n < t then [digit n]
  else digit (t + (n - t) % (36 - t)) :: digits bias (position + 36) ((n - t) / (36 - t))
termination_by n
decreasing_by
  have h1 := threshold_pos bias position
  have h2 := Nat.div_le_self (n - threshold bias position) (36 - threshold bias position)
  omega

/-- Divides until the number is small, and counts. -/
def reduce (n count : Nat) : Nat × Nat :=
  if 455 < n then reduce (n / 35) (count + 36) else (n, count)
termination_by n
decreasing_by omega

/-- The bias after a number, for a count of letters that are written. -/
def adapt (n count : Nat) (first : Bool) : Nat :=
  let n := if first then n / 700 else n / 2
  let (n, k) := reduce (n + n / count) 0
  k + 36 * n / (n + 38)

structure Progress where
  written : List Char
  /-- How far the next letter lies from the one before. -/
  delta : Nat := 0
  bias : Nat := 72
  count : Nat

/-- Goes over one letter of the name while the letters of one code point are written. -/
def pass (basics point : Nat) (p : Progress) (c : Char) : Progress :=
  if c.toNat < point then { p with delta := p.delta + 1 }
  else if c.toNat == point then
    { written := p.written ++ digits p.bias 36 p.delta
      delta := 0
      bias := adapt p.delta (p.count + 1) (p.count == basics)
      count := p.count + 1 }
  else p

/-- Writes the letters of each code point in turn; `low` is the least one that may still come. -/
def passes (cs : List Char) (basics : Nat) : List Nat → Nat → Progress → Progress
  | [], _, p => p
  | point :: rest, low, p =>
    let p := { p with delta := p.delta + (point - low) * (p.count + 1) }
    let p := cs.foldl (pass basics point) p
    passes cs basics rest (point + 1) { p with delta := p.delta + 1 }

/-- A number in an ascending list without repetition. -/
def insert (n : Nat) : List Nat → List Nat
  | [] => [n]
  | m :: rest => if n < m then n :: m :: rest else if n == m then m :: rest else m :: insert n rest

def encode (cs : List Char) : List Char :=
  let basic := cs.filter fun c ↦ c.toNat < 128
  let points := (cs.filter fun c ↦ 128 ≤ c.toNat).foldr (fun c ns ↦ insert c.toNat ns) []
  let front := if basic.isEmpty then [] else basic ++ ['-']
  front ++ (passes cs basic.length points 128 { written := [], count := basic.length }).written

/-! ### Reading -/

def digit? (c : Char) : Option Nat :=
  if 'a' ≤ c && c ≤ 'z' then some (c.toNat - 97)
  else if 'A' ≤ c && c ≤ 'Z' then some (c.toNat - 65)
  else if c.isDigit then some (c.toNat - 22)
  else none

/-- The number that digits begin with, and what stands behind it. -/
def number? (bias position weight : Nat) : List Char → Option (Nat × List Char)
  | [] => none
  | c :: rest => do
    let d ← digit? c
    let t := threshold bias position
    if d < t then some (d * weight, rest)
    else
      let (n, rest) ← number? bias (position + 36) (weight * (36 - t)) rest
      some (d * weight + n, rest)

/-- Where the next letter goes: the least one that may come, and the first place that it may take. -/
structure Cursor where
  point : Nat := 128
  place : Nat := 0
  bias : Nat := 72
  isFirst : Bool := true

/-- What a code stands for. -/
structure Reading where
  name : List Char
  /-- Whether all of the code has a meaning. -/
  isWhole : Bool := true

/-- Puts the letters of a code into a name, up to a number that cannot be read. In the place of a letter beyond all code
points there is a question mark. -/
def expand : Nat → Cursor → Reading → List Char → Reading
  | _, _, r, [] => r
  | 0, _, r, _ :: _ => { r with isWhole := false }
  | fuel + 1, cursor, r, code =>
    match number? cursor.bias 36 1 code with
    | none => { r with isWhole := false }
    | some (delta, rest) =>
      let places := r.name.length + 1
      let meant := cursor.point + (cursor.place + delta) / places
      let place := (cursor.place + delta) % places
      let isPoint := meant ≤ 0x10FFFF
      let point := if isPoint then meant else '?'.toNat
      expand fuel
        { point, place := place + 1, bias := adapt delta places cursor.isFirst, isFirst := false }
        { name := r.name.take place ++ Char.ofNat point :: r.name.drop place, isWhole := r.isWhole && isPoint } rest

/-- The letters that are written as they are, and the digits behind the last hyphen. -/
def split (code : List Char) : List Char × List Char :=
  let digits := (code.reverse.takeWhile (· != '-')).reverse
  (code.take (code.length - digits.length - 1), digits)

def read (code : List Char) : Reading :=
  let (basic, digits) := split code
  expand digits.length {} { name := basic } digits

/-- The name that a code stands for. -/
def decode? (code : List Char) : Option (List Char) :=
  let r := read code
  if r.isWhole then some r.name else none

end Statechart.Text.Punycode
