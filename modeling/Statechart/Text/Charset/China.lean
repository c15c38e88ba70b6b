import Statechart.Text.Charset.Grid
import Statechart.Text.Charset.Table.China

/-!
# Bytes of China

The main set stands on bytes above 128. A larger one has all ideographs: those which the main set lacks stand in order on the
rows in front of it, and then on the first columns of its rows. The largest one has all code points, the rest in four bytes.
-/

set_option autoImplicit false
set_option relaxedAutoImplicit false

namespace Statechart.Text.Charset.China

inductive Size where
  | main
  | large
  | full
deriving DecidableEq, Repr

/-- The place of a pair among those for ideographs that the main set lacks. -/
def placeOf? (a b : Nat) : Option Nat :=
  let column := if b < 0x7F then b - 0x40 else b - 0x41
  if b < 0x40 || b == 0x7F || 0xFF ≤ b then none
  else if 0x81 ≤ a && a ≤ 0xA0 then some ((a - 0x81) * 190 + column)
  else if 0xAA ≤ a && a ≤ 0xFE && b ≤ 0xA0 then some (32 * 190 + (a - 0xAA) * 96 + column)
  else none

/-- Where runs of the characters in four bytes begin: their numbers, and their code points. -/
def ranges : List (Nat × Nat) := (CharSet.words chinaRanges).map CharSet.rangeOf

/-- The character of four bytes: the first ones count through the main plane, later ones through the others. -/
def ofFour? (ranges : List (Nat × Nat)) (a b c d : Nat) : Option Char :=
  if a < 0x81 || 0xFE < a || c < 0x81 || 0xFE < c || d < 0x30 || 0x39 < d then none
  else
    let n := ((a - 0x81) * 10 + (b - 0x30)) * 1260 + (c - 0x81) * 10 + (d - 0x30)
    if a < 0x85 then
      if n < 39420 then (ranges.findRev? fun r ↦ r.1 ≤ n).map fun r ↦ Char.ofNat (r.2 + (n - r.1)) else none
    else if a < 0x90 then none
    else
      let n := n - 15 * 12600 + 0x10000
      if n < 0x110000 then some (Char.ofNat n) else none

def decode (size : Size) (bytes : List Nat) : Glyphs × List Nat :=
  let main := Grid.ofText chinaMain
  if size == .main then inPieces (byPairs ascii? fun a b ↦ one (main.above? a b)) bytes
  else
    let more := Grid.ofText chinaMore
    let lacking := main.missing 0x4E00 0x9FA5
    let large? (a b : Nat) : Option Char :=
      more.at? a b <|> main.above? a b <|> (placeOf? a b).bind fun n ↦ lacking[n]?
    if size == .large then inPieces (byPairs ascii? fun a b ↦ one (large? a b)) bytes
    else
      let most := Grid.ofText chinaMost
      let four := ranges
      inPieces (fun a rest ↦
        match rest with
        | b :: after =>
          if 128 ≤ a && 0x30 ≤ b && b ≤ 0x39 then
            match after with
            | c :: d :: _ => .ofGlyphs (one (ofFour? four a b c d)) 3
            | _ => none
          else byPairs ascii? (fun a b ↦ one (large? a b <|> most.at? a b)) a rest
        | [] => byPairs ascii? (fun _ _ ↦ []) a rest) bytes

end Statechart.Text.Charset.China
