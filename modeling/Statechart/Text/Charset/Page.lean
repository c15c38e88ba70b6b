import Statechart.Text.Charset.Pages
import Statechart.Text.CharSet

/-!
# Pages

A page gives each byte a character or none.
-/

set_option autoImplicit false
set_option relaxedAutoImplicit false

namespace Statechart.Text.Charset

/-- The characters that one word of the text of a page gives to bytes. -/
def wordGlyphs (word : List Char) : List (Option Char) :=
  match word with
  | ['.'] => [none]
  | '.' :: count => List.replicate (CharSet.number count) none
  | word =>
    let (low, high) := CharSet.rangeOf word
    (List.range (high + 1 - low)).map fun i ↦ some (Char.ofNat (low + i))

/-- The page of a text; if it is of half the size, bytes in ASCII stand for themselves. -/
def pageOf (text : String) : Array (Option Char) :=
  let glyphs := (CharSet.words text).flatMap wordGlyphs
  if glyphs.length ≤ 128 then ((List.range 128).map fun n ↦ some (Char.ofNat n)).toArray ++ glyphs.toArray
  else glyphs.toArray

/-- Bytes as the characters of a page. -/
def onPage (page : Array (Option Char)) (bytes : List UInt8) : List (Option Char) :=
  bytes.map fun b ↦ (page[b.toNat]?).join

end Statechart.Text.Charset
