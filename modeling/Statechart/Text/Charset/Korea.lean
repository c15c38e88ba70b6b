import Statechart.Text.Charset.Grid
import Statechart.Text.Charset.Table.Korea

/-!
# Bytes of Korea

The set stands on bytes above 128. Syllables that it lacks are made of their letters in eight bytes, stand in order on
pairs around it, or are all made of three numbers of five bits.
-/

set_option autoImplicit false
set_option relaxedAutoImplicit false

namespace Statechart.Text.Charset.Korea

inductive Variant where
  | main
  | unified
  | combined
deriving DecidableEq, Repr

/-- The syllable of a first letter, a vowel and a last letter, which may be none. -/
def syllable (first vowel last : Nat) : Char := Char.ofNat (0xAC00 + first * 588 + vowel * 28 + last)

/-! ### Letters in two bytes each -/

/-- The letters from the first on that can begin a syllable, as their number among those; and that can end one. -/
def firsts : List Nat := [0, 1, 3, 6, 7, 8, 16, 17, 18, 20, 21, 22, 23, 24, 25, 26, 27, 28, 29]

def lasts : List Nat :=
  [0, 1, 2, 3, 4, 5, 6, 8, 9, 10, 11, 12, 13, 14, 15, 16, 17, 19, 20, 21, 22, 23, 25, 26, 27, 28, 29]

/-- The syllable of the second bytes of its letters; a filler stands for no last letter. -/
def spelled? (first vowel last : Nat) : Option Char := do
  guard (0xA1 ≤ first && 0xBF ≤ vowel && vowel ≤ 0xD3 && 0xA1 ≤ last)
  let first ← firsts.idxOf? (first - 0xA1)
  let last ← if last == 0xD4 then some 0 else (lasts.idxOf? (last - 0xA1)).map (· + 1)
  return syllable first (vowel - 0xBF) last

def mainPiece (pair : Nat → Nat → Option Char) (a : Nat) (rest : List Nat) : Piece :=
  if a == 0xA4 && rest.head? == some 0xD4 then
    match rest with
    | _ :: b :: first :: c :: vowel :: d :: last :: _ =>
      .ofGlyphs (one (if b == 0xA4 && c == 0xA4 && d == 0xA4 then spelled? first vowel last else none)) 7
    | _ => none
  else byPairs ascii? (fun a b ↦ one (pair a b)) a rest

/-! ### Syllables around the set -/

/-- The place of a pair among those for syllables that the set lacks. -/
def placeOf? (a b : Nat) : Option Nat :=
  let column? : Option Nat :=
    if 0x41 ≤ b && b ≤ 0x5A then some (b - 0x41)
    else if 0x61 ≤ b && b ≤ 0x7A then some (b - 0x47)
    else if 0x81 ≤ b && b ≤ 0xFE then some (b - 0x4D)
    else none
  column?.bind fun column ↦
    if 0x81 ≤ a && a ≤ 0xA0 then some ((a - 0x81) * 178 + column)
    else if 0xA1 ≤ a && a ≤ 0xC6 && b ≤ 0xA0 then some (32 * 178 + (a - 0xA1) * 84 + column)
    else none

/-! ### Three numbers of five bits -/

/-- What a number of five bits stands for: a letter, a filler, or nothing. -/
inductive Slot where
  | letter (n : Nat)
  | filler
  | nothing

def slotOf (fillerAt : Nat) (slots : List Nat) (n : Nat) : Slot :=
  if n == fillerAt then .filler
  else
    match slots.idxOf? n with
    | some i => .letter i
    | none => .nothing

def combined? (a b : Nat) : Option Char :=
  let first := slotOf 1 ((List.range 19).map (· + 2)) (a / 4 % 32)
  let vowel := slotOf 2 [3, 4, 5, 6, 7, 10, 11, 12, 13, 14, 15, 18, 19, 20, 21, 22, 23, 26, 27, 28, 29] (a * 8 % 32 + b / 32)
  let last := slotOf 1 ((List.range 16).map (· + 2) ++ (List.range 11).map (· + 19)) (b % 32)
  let sign (n : Nat) : Char := Char.ofNat (0x3131 + n)
  match first, vowel, last with
  | .filler, .filler, .filler => some '\u3000'
  | .filler, .filler, .letter n => (lasts[n]?).map sign
  | .filler, .letter n, .filler => some (sign (30 + n))
  | .letter n, .filler, .filler => (firsts[n]?).map sign
  | .letter n, .letter v, .filler => some (syllable n v 0)
  | .letter n, .letter v, .letter l => some (syllable n v (l + 1))
  | _, _, _ => none

/-- The pair of the set that a pair behind the syllables stands for. -/
def behind? (a b : Nat) : Option (Nat × Nat) :=
  if a < 0xD9 || a == 0xDF || 0xF9 < a || b < 0x31 || (0x80 ≤ b && b < 0x91) || b % 128 == 127
      || (a == 0xDA && 0xA1 ≤ b && b ≤ 0xD3) then none
  else
    let row := if a < 0xE0 then 2 * (a - 0xD9) else 2 * a - 0x197
    let column := if b < 0x91 then b - 0x31 else b - 0x43
    some (row + column / 94 + 0x21, column % 94 + 0x21)

def decode (variant : Variant) (bytes : List Nat) : Glyphs × List Nat :=
  let main := Grid.ofText koreaMain
  match variant with
  | .main => inPieces (mainPiece main.above?) bytes
  | .unified =>
    let lacking := main.missing 0xAC00 0xD7A3
    inPieces (byPairs ascii? fun a b ↦ one (main.above? a b <|> (placeOf? a b).bind fun n ↦ lacking[n]?)) bytes
  | .combined =>
    inPieces (byPairs ascii? fun a b ↦
      one (if a < 0xD8 then combined? a b else (behind? a b).bind fun p ↦ main.at? p.1 p.2)) bytes

end Statechart.Text.Charset.Korea
