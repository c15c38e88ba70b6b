import Statechart.Text.Charset.Grid
import Statechart.Text.Charset.Table.Japan

/-!
# Bytes of Japan

The main set and the planes of the later one have 94 rows of 94 characters. They stand on bytes above 128, with a byte in
front of what is not in the first plane, or their rows are folded into the bytes around those of the narrow syllables.
-/

set_option autoImplicit false
set_option relaxedAutoImplicit false

namespace Statechart.Text.Charset.Japan

/-- The editions of the later set. -/
inductive Edition where
  | first
  | second
deriving DecidableEq, Repr

inductive Code where
  /-- On bytes above 128. -/
  | above
  | aboveLater (edition : Edition)
  | folded
  | foldedMore
  | foldedLater (edition : Edition)
deriving DecidableEq, Repr

/-- The place of the stroke backwards. -/
def isStroke (a b : Nat) : Bool := a == 0x21 && b == 0x40

/-- Characters of the later set that are written as two. -/
def joined : List (Nat × List Nat) :=
  let kana := [(0x2477, 0x304B), (0x2478, 0x304D), (0x2479, 0x304F), (0x247A, 0x3051), (0x247B, 0x3053), (0x2577, 0x30AB),
    (0x2578, 0x30AD), (0x2579, 0x30AF), (0x257A, 0x30B1), (0x257B, 0x30B3), (0x257C, 0x30BB), (0x257D, 0x30C4),
    (0x257E, 0x30C8), (0x2678, 0x31F7)]
  kana.map (fun k ↦ (k.1, [k.2, 0x309A])) ++
    [(0x2B44, [0xE6, 0x300]), (0x2B48, [0x254, 0x300]), (0x2B49, [0x254, 0x301]), (0x2B4A, [0x28C, 0x300]),
      (0x2B4B, [0x28C, 0x301]), (0x2B4C, [0x259, 0x300]), (0x2B4D, [0x259, 0x301]), (0x2B4E, [0x25A, 0x300]),
      (0x2B4F, [0x25A, 0x301]), (0x2B65, [0x2E9, 0x2E5]), (0x2B66, [0x2E5, 0x2E9])]

/-- What the second edition of the later set adds to its first plane. -/
def added : List Nat := [0x2E21, 0x2F7E, 0x4F54, 0x4F7E, 0x7427, 0x7E7A, 0x7E7B, 0x7E7C, 0x7E7D, 0x7E7E]

/-- The first plane of the later set, upon the main set; what an edition does not have yet stands for nothing. -/
def plane (main first : Grid) (edition : Edition) (a b : Nat) : Glyphs :=
  let n := a * 256 + b
  if edition == .first && added.contains n then [none]
  else
    match main.at? a b <|> first.at? a b with
    | some c => [some c]
    | none => ((joined.lookup n).getD []).map fun n ↦ some (Char.ofNat n)

/-- The second plane of the later set; the editions write one character in different ways. -/
def secondPlane? (second : Grid) (edition : Edition) (a b : Nat) : Option Char :=
  if edition == .first && a == 0x7D && b == 0x3B then some '\u9B1D' else second.at? a b

/-- A narrow syllable or mark. -/
def kana? (b : Nat) : Option Char := if 0xA1 ≤ b && b ≤ 0xDF then some (Char.ofNat (0xFEC0 + b)) else none

/-- A letter of the set that has a sign of money and a line in place of a stroke and a wave. -/
def roman? (b : Nat) : Option Char :=
  if b == 0x5C then some '¥' else if b == 0x7E then some '\u203E' else ascii? b

/-! ### Bytes above 128 -/

/-- Reads with a byte in front of narrow syllables, and another one in front of what is in no first plane. -/
def onHigh (main : Nat → Nat → Glyphs) (rest? : Nat → Nat → Option Char) (a : Nat) (rest : List Nat) : Piece :=
  if a == 0x8F then
    match rest with
    | b :: c :: _ => .ofGlyphs (one (if 128 ≤ b && 128 ≤ c then rest? (b - 128) (c - 128) else none)) 2
    | _ => none
  else
    byPairs ascii? (fun a b ↦
      if a == 0x8E then one (kana? b)
      else if 128 ≤ a && 128 ≤ b then main (a - 128) (b - 128)
      else []) a rest

/-! ### Folded rows -/

/-- The row from zero and the column of a pair. -/
def rowOf? (a b : Nat) : Option (Nat × Nat) :=
  if !((0x81 ≤ a && a ≤ 0x9F) || (0xE0 ≤ a && a ≤ 0xFC)) || b < 0x40 || b == 0x7F || 0xFC < b then none
  else
    let row := if a < 0xE0 then a - 0x81 else a - 0xC1
    let column := if b < 0x80 then b - 0x40 else b - 0x41
    some (2 * row + column / 94, column % 94 + 0x21)

/-- Characters for those who use them. -/
def private? (a b : Nat) : Option Char :=
  if 0xF0 ≤ a && a ≤ 0xF9 && 0x40 ≤ b && b != 0x7F && b ≤ 0xFC then
    some (Char.ofNat (0xE000 + 188 * (a - 0xF0) + (if b < 0x80 then b - 0x40 else b - 0x41)))
  else none

/-- A character of one byte in the set that has one for each that begins no pair. -/
def anyAlone? (b : Nat) : Option Char :=
  if b ≤ 0x80 then some (Char.ofNat b)
  else if b == 0xA0 then some '\uF8F0'
  else if 0xFD ≤ b then some (Char.ofNat (0xF8F1 + (b - 0xFD)))
  else kana? b

/-- The row of the second plane that a row behind the first one stands for. -/
def secondRow (row : Nat) : Nat :=
  if 0x67 ≤ row then row + 7 else if 0x63 ≤ row || row == 0x5F then row - 0x37 else row - 0x3D

def decode (code : Code) (bytes : List Nat) : Glyphs × List Nat :=
  let main := Grid.ofText japanMain
  match code with
  | .above =>
    let supplement := Grid.ofText japanSupplement
    inPieces (onHigh (fun a b ↦ one (main.at? a b)) supplement.at?) bytes
  | .aboveLater edition =>
    let supplement := Grid.ofText japanSupplement
    let first := Grid.ofText japanFirst
    let second := Grid.ofText japanSecond
    inPieces (onHigh (fun a b ↦ if a == 0x22 && b == 0x32 then [some '\uFF5E'] else plane main first edition a b)
      fun a b ↦ secondPlane? second edition a b <|> supplement.at? a b) bytes
  | .folded =>
    inPieces (byPairs (fun b ↦ ascii? b <|> kana? b) fun a b ↦
      one ((rowOf? a b).bind fun p ↦ main.at? (p.1 + 0x21) p.2)) bytes
  | .foldedMore =>
    let more := Grid.ofText japanMore
    inPieces (byPairs anyAlone? fun a b ↦
      one (more.at? a b <|> (rowOf? a b).bind (fun p ↦ main.at? (p.1 + 0x21) p.2) <|> private? a b)) bytes
  | .foldedLater edition =>
    let first := Grid.ofText japanFirst
    let second := Grid.ofText japanSecond
    inPieces (byPairs (fun b ↦ roman? b <|> kana? b) fun a b ↦
      match rowOf? a b with
      | none => []
      | some (row, column) =>
        if isStroke (row + 0x21) column then [some '\\']
        else if row < 94 then plane main first edition (row + 0x21) column
        else one (secondPlane? second edition (secondRow row) column)) bytes

end Statechart.Text.Charset.Japan
