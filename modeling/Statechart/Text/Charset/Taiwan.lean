import Statechart.Text.Charset.Grid
import Statechart.Text.Charset.Table.Taiwan

/-!
# Bytes of Taiwan and Hong Kong
-/

set_option autoImplicit false
set_option relaxedAutoImplicit false

namespace Statechart.Text.Charset.Taiwan

inductive Variant where
  | main
  | more
  | hongKong
deriving DecidableEq, Repr

/-- Letters with a second mark, which are two characters. -/
def marked : List ((Nat × Nat) × List Char) :=
  [((0x88, 0x62), ['Ê', '\u0304']), ((0x88, 0x64), ['Ê', '\u030C']), ((0x88, 0xA3), ['ê', '\u0304']),
    ((0x88, 0xA5), ['ê', '\u030C'])]

/-- Pairs of the main set that the variant of Hong Kong leaves out. -/
def leftOut : List (Nat × Nat) := [0xCF, 0xD3, 0xD5, 0xD7, 0xDE, 0xDF].map fun b ↦ (0xC6, b)

def decode (variant : Variant) (bytes : List Nat) : Glyphs × List Nat :=
  let main := Grid.ofText taiwanMain
  match variant with
  | .main => inPieces (byPairs ascii? fun a b ↦ one (main.at? a b)) bytes
  | .more =>
    let more := Grid.ofText taiwanMore
    inPieces (byPairs ascii? fun a b ↦ one (more.at? a b <|> main.at? a b)) bytes
  | .hongKong =>
    let more := Grid.ofText hongKong
    inPieces (byPairs ascii? fun a b ↦
      match marked.lookup (a, b) with
      | some chars => chars.map some
      | none => one (more.at? a b <|> if leftOut.contains (a, b) then none else main.at? a b)) bytes

end Statechart.Text.Charset.Taiwan
