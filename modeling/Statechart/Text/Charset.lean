import Statechart.Failure
import Statechart.Text.Charset.Escape
import Statechart.Text.Charset.Names
import Statechart.Text.Charset.Page
import Statechart.Text.Charset.Switch
import Statechart.Text.Charset.Taiwan
import Statechart.Text.Charset.Unicode
import Statechart.Text.Punycode

/-!
# Character sets

A character set says which characters bytes stand for. Texts are read to their end: where bytes stand for nothing, there
is nothing, which a reader may show by a sign or refuse.
-/

set_option autoImplicit false
set_option relaxedAutoImplicit false

namespace Statechart.Text

inductive Charset where
  | ascii
  /-- Each byte is a code point. -/
  | latin
  | page (texts : String)
  /-- A mark may stand in front, or it counts as a character. -/
  | utf8 (marked : Bool)
  /-- The order of the bytes, told by a mark unless it is known. -/
  | utf16 (big : Option Bool)
  | utf32 (big : Option Bool)
  | utf7
  | china (size : Charset.China.Size)
  | taiwan (variant : Charset.Taiwan.Variant)
  | korea (variant : Charset.Korea.Variant)
  | japan (code : Charset.Japan.Code)
  | switching (code : Charset.Switch.Code)
  /-- Code points, with escapes. -/
  | escaped (raw : Bool)
  /-- Letters beyond ASCII behind the others, in digits. -/
  | punycode
  /-- A code that has a name but is no character set. -/
  | other (fault : Fault) (text : String)
deriving DecidableEq, Repr

namespace Charset

/-- The character set of a proper name. -/
def ofProper? (name : String) : Option Charset :=
  match name with
  | "ascii" => some .ascii
  | "latin_1" | "iso8859_1" | "charmap" => some .latin
  | "utf_8" => some (.utf8 false)
  | "utf_8_sig" => some (.utf8 true)
  | "utf_16" => some (.utf16 none)
  | "utf_16_be" => some (.utf16 (some true))
  | "utf_16_le" => some (.utf16 (some false))
  | "utf_32" => some (.utf32 none)
  | "utf_32_be" => some (.utf32 (some true))
  | "utf_32_le" => some (.utf32 (some false))
  | "utf_7" => some .utf7
  | "gb2312" => some (.china .main)
  | "gbk" => some (.china .large)
  | "gb18030" => some (.china .full)
  | "big5" => some (.taiwan .main)
  | "cp950" => some (.taiwan .more)
  | "big5hkscs" => some (.taiwan .hongKong)
  | "euc_kr" => some (.korea .main)
  | "cp949" => some (.korea .unified)
  | "johab" => some (.korea .combined)
  | "euc_jp" => some (.japan .above)
  | "euc_jisx0213" => some (.japan (.aboveLater .first))
  | "euc_jis_2004" => some (.japan (.aboveLater .second))
  | "shift_jis" => some (.japan .folded)
  | "cp932" => some (.japan .foldedMore)
  | "shift_jisx0213" => some (.japan (.foldedLater .first))
  | "shift_jis_2004" => some (.japan (.foldedLater .second))
  | "hz" => some (.switching .braces)
  | "iso2022_kr" => some (.switching .korea)
  | "iso2022_jp" => some (.switching .japan)
  | "iso2022_jp_1" => some (.switching .japanFirst)
  | "iso2022_jp_2" => some (.switching .japanSecond)
  | "iso2022_jp_3" => some (.switching .japanThird)
  | "iso2022_jp_2004" => some (.switching .japanLater)
  | "iso2022_jp_ext" => some (.switching .japanMore)
  | "unicode_escape" => some (.escaped false)
  | "raw_unicode_escape" => some (.escaped true)
  | "punycode" => some .punycode
  | "base64_codec" | "bz2_codec" | "hex_codec" | "quopri_codec" | "uu_codec" | "zlib_codec" =>
    some (.other .unmetCondition "")
  | "rot_13" =>
    some (.other .wrongType "descriptor 'translate' for 'str' objects doesn't apply to a 'bytes' object")
  | "undefined" => some (.other .badText "undefined encoding")
  | "idna" => some (.other .badText "Unsupported error handling replace")
  | name => (pageTexts.lookup name).map .page

def named? (name : String) : Option Charset := (properName? name.toList).bind fun n ↦ ofProper? (String.ofList n)

/-- Without the mark in front; the part of a mark that is alone in a text counts as one. -/
def withoutMark (bytes : List UInt8) : List UInt8 :=
  if bytes.isPrefixOf Unicode.mark8 then [] else if Unicode.mark8.isPrefixOf bytes then bytes.drop 3 else bytes

def marks16 : List (List UInt8 × Bool) := [([0xFF, 0xFE], false), ([0xFE, 0xFF], true)]

def marks32 : List (List UInt8 × Bool) := [([0xFF, 0xFE, 0, 0], false), ([0, 0, 0xFE, 0xFF], true)]

/-- Bytes behind a mark that tells their order. -/
def behindMark (marks : List (List UInt8 × Bool)) (bytes : List UInt8) : Option (Bool × List UInt8) :=
  (marks.find? fun m ↦ m.1.isPrefixOf bytes).map fun m ↦ (m.2, bytes.drop m.1.length)

def noMark (name : String) : Outcome Glyphs :=
  .error (.foreign .badText (name ++ " stream does not start with BOM"))

/-- How many bytes may be kept for what comes behind them. -/
def unfinishedLimit : Nat := 8

/-- Nothing stands for an unfinished piece. -/
def finished (read : Glyphs × List Nat) : Outcome Glyphs :=
  if unfinishedLimit < read.2.length then .error (.foreign .badText "pending buffer overflow")
  else .ok (read.1 ++ if read.2.isEmpty then [] else [none])

/-- The letters of a code in ASCII. Letters in front that are not in ASCII are passed over, but none stands behind. -/
def ofCode (bytes : List UInt8) : Outcome Punycode.Reading :=
  let (basic, digits) := Punycode.split (bytes.map fun b ↦ Char.ofNat b.toNat)
  match digits.find? (0x80 ≤ ·.toNat) with
  | none =>
    let isPlain (c : Char) : Bool := c.toNat < 0x80
    let r := Punycode.read ((basic.map fun c ↦ if isPlain c then c else '\uFFFD') ++ '-' :: digits)
    .ok { r with isWhole := r.isWhole && basic.all isPlain }
  | some c =>
    .error (.foreign .undecodable ("'ascii' codec can't decode byte 0x" ++ String.ofList (Nat.toDigits 16 c.toNat)
      ++ " in position " ++ toString (digits.takeWhile (·.toNat < 0x80)).length ++ ": ordinal not in range(128)"))

/-- The characters that bytes stand for. -/
def decode (set : Charset) (bytes : List UInt8) : Outcome Glyphs :=
  match set with
  | .ascii => .ok (bytes.map fun b ↦ if b < 0x80 then some (Char.ofNat b.toNat) else none)
  | .latin => .ok (bytes.map fun b ↦ some (Char.ofNat b.toNat))
  | .page text => .ok (onPage (pageOf text) bytes)
  | .utf8 marked =>
    let bytes := if marked then withoutMark bytes else bytes
    .ok (Unicode.utf8 bytes.length bytes)
  | .utf16 (some big) => .ok (Unicode.utf16 big bytes)
  | .utf16 none =>
    match behindMark marks16 bytes with
    | some (big, rest) => .ok (Unicode.utf16 big rest)
    | none => if bytes.length < 2 then .ok (Unicode.utf16 false bytes) else noMark "UTF-16"
  | .utf32 (some big) => .ok (Unicode.utf32 big bytes)
  | .utf32 none =>
    match behindMark marks32 bytes with
    | some (big, rest) => .ok (Unicode.utf32 big rest)
    | none => if bytes.length < 4 then .ok (Unicode.utf32 false bytes) else noMark "UTF-32"
  | .utf7 => .ok (Unicode.utf7 none bytes)
  | .china size => finished (China.decode size (bytes.map (·.toNat)))
  | .taiwan variant => finished (Taiwan.decode variant (bytes.map (·.toNat)))
  | .korea variant => finished (Korea.decode variant (bytes.map (·.toNat)))
  | .japan code => finished (Japan.decode code (bytes.map (·.toNat)))
  | .switching code => finished (Switch.decode code (bytes.map (·.toNat)))
  | .escaped raw => finished (Escape.decode raw (bytes.map (·.toNat)))
  | .punycode => do return (← ofCode bytes).name.map some
  | .other fault text => .error (.foreign fault text)

/-- A text in which a sign stands where there is nothing. -/
def shown (glyphs : Glyphs) : String := String.ofList (glyphs.map fun g ↦ g.getD '\uFFFD')

/-- A text without gaps. -/
def whole? (glyphs : Glyphs) : Option String := (glyphs.mapM id).map String.ofList

/-- The text that bytes stand for, none if some of them stand for nothing. Where a mark should tell the order of bytes
and does not, the low one comes first. -/
def text? (set : Charset) (bytes : List UInt8) : Option String :=
  let glyphs : Outcome Glyphs :=
    match set with
    | .utf16 none =>
      if (behindMark marks16 bytes).isNone then .ok (Unicode.utf16 false bytes) else set.decode bytes
    | .utf32 none =>
      if (behindMark marks32 bytes).isNone then .ok (Unicode.utf32 false bytes) else set.decode bytes
    | .punycode => do
      let r ← ofCode bytes
      return if r.isWhole then r.name.map some else [none]
    | _ => set.decode bytes
  glyphs.toOption.bind whole?

end Charset

end Statechart.Text
