import Statechart.Text.Charset.Grid
import Statechart.Text.Digits

/-!
# Escaped characters

Bytes are code points, and a stroke backwards stands in front of what is written by a number or a letter. In the raw form only
numbers of four and eight digits are. What a stroke does not begin stands for itself; a number that is cut short, or that is
none of a character, stands for nothing.
-/

set_option autoImplicit false
set_option relaxedAutoImplicit false

namespace Statechart.Text.Charset.Escape

/-- What letters behind a stroke stand for. -/
def letters : List (Char × Char) :=
  [('\\', '\\'), ('\'', '\''), ('"', '"'), ('a', '\x07'), ('b', '\x08'), ('t', '\t'), ('n', '\n'), ('v', '\x0b'),
    ('f', '\x0c'), ('r', '\r')]

/-- How many digits follow a letter. -/
def widths : List (Char × Nat) := [('x', 2), ('u', 4), ('U', 8)]

/-- A number of hexadecimal digits behind a letter; `rest` begins with them. -/
def numbered (width : Nat) (rest : List Char) : Piece :=
  let digits := (rest.take width).takeWhile fun c ↦ (natOfDigits? 16 [c]).isSome
  let number? := if digits.length == width then natOfDigits? 16 digits else none
  some ([number?.bind Unicode.glyph?], digits.length + 1)

/-- A number of up to three octal digits, the first of which is `c`. -/
def octal (c : Char) (rest : List Char) : Piece :=
  let digits := c :: (rest.take 2).takeWhile fun c ↦ (natOfDigits? 8 [c]).isSome
  some ([some (Char.ofNat ((natOfDigits? 8 digits).getD 0))], digits.length)

/-- A name between braces; no names are known. The closing brace is part of one that is not empty. -/
def named (rest : List Char) : Piece :=
  match rest with
  | '{' :: after =>
    let name := after.takeWhile (· != '}')
    let isClosed := name.length < after.length && !name.isEmpty
    some ([none], name.length + if isClosed then 3 else 2)
  | _ => some ([none], 1)

def piece (raw : Bool) (a : Nat) (rest : List Nat) : Piece :=
  let alone : Piece := some ([some (Char.ofNat a)], 0)
  if a != 0x5C then alone
  else
    match rest.map Char.ofNat with
    | [] => if raw then alone else none
    | c :: after =>
      let itself : Piece := some ([some '\\', some c], 1)
      match widths.lookup c with
      | some width => if raw && width == 2 then itself else numbered width after
      | none =>
        if raw then itself
        else if c == '\n' then some ([], 1)
        else if c == 'N' then named after
        else if (natOfDigits? 8 [c]).isSome then octal c after
        else
          match letters.lookup c with
          | some char => some ([some char], 1)
          | none => itself

def decode (raw : Bool) (bytes : List Nat) : Glyphs × List Nat := inPieces (piece raw) bytes

end Statechart.Text.Charset.Escape
