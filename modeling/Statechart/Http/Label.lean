import Statechart.Http.Label.Letters
import Statechart.Text.Composed
import Statechart.Text.Direction
import Statechart.Text.Punycode
import Statechart.Text.Quoted

/-!
# Labels of host names

A host name is made of labels between dots. A label has letters, digits, marks and hyphens, in some scripts also
characters that may stand in certain places only, and its letters agree on a direction of writing. It is written in ASCII
either as it is or, behind a sign, as the code of its letters; a written label is checked by what it stands for.
-/

set_option autoImplicit false
set_option relaxedAutoImplicit false

namespace Statechart.Http

/-- What is wrong with a name. -/
inductive NameFlaw where
  | longName
  | longLabel
  | emptyName
  | emptyLabel
  | notComposed
  | innerHyphens
  | outerHyphen
  | leadingMark
  /-- The sign stands alone. -/
  | noCode
  | codeEndsInHyphen
  | badCode
  /-- A character that may stand in no label, with its place and the label. -/
  | letter (c : Char) (place : Nat) (label : List Char)
  /-- A joiner behind a character of which nothing is known. -/
  | stranger (c : Char) (place : Nat) (label : List Char)
  /-- A joiner between letters that are not joined. -/
  | joiner (c : Char) (place : Nat) (label : List Char)
  /-- A character at a place where it may not stand. -/
  | context (c : Char) (place : Nat) (label : List Char)
  | unknownDirection (place : Nat) (label : List Char)
  | firstDirection (label : List Char)
  | direction (place : Nat) (fromRight : Bool)
  | mixedNumbers
  | lastDirection
deriving DecidableEq, Repr

namespace NameFlaw

/-- A character by its code point. -/
def point (c : Char) : String :=
  let digits := (Nat.toDigits 16 c.toNat).map Char.toUpper
  "U+" ++ String.ofList (List.replicate (4 - digits.length) '0' ++ digits)

def shown (label : List Char) : String := Text.quoted (String.ofList label)

def text : NameFlaw → String
  | .longName => "Domain too long"
  | .longLabel => "Label too long"
  | .emptyName => "Empty domain"
  | .emptyLabel => "Empty Label"
  | .notComposed => "Label must be in Normalization Form C"
  | .innerHyphens => "Label has disallowed hyphens in 3rd and 4th position"
  | .outerHyphen => "Label must not start or end with a hyphen"
  | .leadingMark => "Label begins with an illegal combining character"
  | .noCode => "Malformed A-label, no Punycode eligible content found"
  | .codeEndsInHyphen => "A-label must not end with a hyphen"
  | .badCode => "Invalid A-label"
  | .letter c place label =>
    "Codepoint " ++ point c ++ " at position " ++ toString place ++ " of " ++ shown label ++ " not allowed"
  | .stranger c place label =>
    "Unknown codepoint adjacent to joiner " ++ point c ++ " at position " ++ toString place ++ " in " ++ shown label
  | .joiner c place label =>
    "Joiner " ++ point c ++ " not allowed at position " ++ toString place ++ " in " ++ shown label
  | .context c place label =>
    "Codepoint " ++ point c ++ " not allowed at position " ++ toString place ++ " in " ++ shown label
  | .unknownDirection place label =>
    "Unknown directionality in label " ++ shown label ++ " at position " ++ toString place
  | .firstDirection label => "First codepoint in label " ++ shown label ++ " must be directionality L, R or AL"
  | .direction place fromRight =>
    "Invalid direction for codepoint at position " ++ toString place ++ " in a "
      ++ (if fromRight then "right-to-left" else "left-to-right") ++ " label"
  | .mixedNumbers => "Can not mix numeral types in a right-to-left label"
  | .lastDirection => "Label ends with illegal codepoint directionality"

end NameFlaw

namespace Label

open Text

/-! ### Characters in their places -/

/-- The class of marks that stand for the lack of a vowel. -/
def silence : Nat := 9

/-- The first letter that is no mark joins what stands next to it. -/
def joins (sides : List CharSet) (cs : List Char) : Bool :=
  match cs.dropWhile joiningMarks.contains with
  | c :: _ => sides.any (·.contains c)
  | [] => false

/-- Whether a joiner may stand behind some letters, the nearest first, and in front of others. -/
def joinerFits (c : Char) (before after : List Char) : Bool :=
  let silent := before.head?.any fun d ↦ Composed.classOf d == silence
  silent || (c == '\u200C' && joins [joiningLeft, joiningBoth] before && joins [joiningRight, joiningBoth] after)

def arabicDigits : CharSet := .ofText "660-669"

def persianDigits : CharSet := .ofText "6F0-6F9"

/-- The characters that depend on what stands around them, each with the rule for what stands before it, the nearest
first, behind it, and anywhere in the label. -/
def contextRule? (c : Char) : Option (List Char → List Char → List Char → Bool) :=
  if c == '\u00B7' then some fun before after _ ↦ before.head? == some 'l' && after.head? == some 'l'
  else if c == '\u0375' then some fun _ after _ ↦ after.head?.any greek.contains
  else if c == '\u05F3' || c == '\u05F4' then some fun before _ _ ↦ before.head?.any hebrew.contains
  else if c == '\u30FB' then some fun _ _ label ↦ label.any fun d ↦ d != '\u30FB' && eastern.contains d
  else if arabicDigits.contains c then some fun _ _ label ↦ !label.any persianDigits.contains
  else if persianDigits.contains c then some fun _ _ label ↦ !label.any arabicDigits.contains
  else none

/-- Checks the characters of a label one after the other; those before are kept in reverse. -/
def checkLetters (label : List Char) : List Char → List Char → Except NameFlaw Unit
  | _, [] => .ok ()
  | before, c :: after => do
    let place := before.length + 1
    if !letters.contains c then
      if c == '\u200C' || c == '\u200D' then
        if before.head?.any Direction.unassigned.contains then throw (.stranger c place label)
        if !joinerFits c before after then throw (.joiner c place label)
      else
        match contextRule? c with
        | some fits => if !fits before after label then throw (.context c place label)
        | none => throw (.letter c place label)
    checkLetters label (c :: before) after

/-! ### Directions -/

/-- What is known of a label up to some letter. -/
structure Stretch where
  /-- A label may end here. -/
  mayEnd : Bool := false
  /-- The kind of numbers that it has. -/
  numbers : Option Direction := none

/-- One letter of a label that is written from right to left, or of one that is not. -/
def Stretch.next (fromRight : Bool) (place : Nat) (sofar : Stretch) (d : Direction) : Except NameFlaw Stretch := do
  let isNumber := d == .number || d == .arabicNumber
  let ends := d == .number
    || (if fromRight then d == .right || d == .arabic || d == .arabicNumber else d == .left)
  let stray := if fromRight then d == .left else d == .right || d == .arabic || d == .arabicNumber
  if stray then throw (.direction place fromRight)
  let numbers := if fromRight && isNumber && sofar.numbers.isNone then some d else sofar.numbers
  if fromRight && isNumber && numbers != some d then throw .mixedNumbers
  return { mayEnd := if d == .mark then sofar.mayEnd else ends, numbers := numbers }

/-- The letters of a label agree on a direction, if some of them are written from right to left. -/
def checkDirections (label : List Char) : Except NameFlaw Unit := do
  let ds := label.map Direction.of
  if ds.contains .unknown then throw (.unknownDirection ((ds.takeWhile (· != .unknown)).length + 1) label)
  if ds.any fun d ↦ d == .right || d == .arabic || d == .arabicNumber then
    let fromRight ← match ds.head? with
      | some .right | some .arabic => pure true
      | some .left => pure false
      | _ => throw (.firstDirection label)
    let whole ← ds.zipIdx.foldlM (fun sofar (d, i) ↦ sofar.next fromRight (i + 1) d) ({} : Stretch)
    if !whole.mayEnd then throw .lastDirection

/-! ### Labels -/

def check (label : List Char) : Except NameFlaw Unit := do
  if label.isEmpty then throw .emptyLabel
  if !isComposed label then throw .notComposed
  if (label.drop 2).take 2 == ['-', '-'] then throw .innerHyphens
  if label.head? == some '-' || label.getLast? == some '-' then throw .outerHyphen
  if label.head?.any Composed.marks.contains then throw .leadingMark
  checkLetters label [] label
  checkDirections label

/-- The sign in front of a code. -/
def sign : List Char := ['x', 'n', '-', '-']

def lengthLimit : Nat := 63

/-- What a label in ASCII stands for. Of the codes for one label only the one that it is written as is taken. -/
def decode (label : List Char) : Except NameFlaw (List Char) := do
  let lower := label.map Char.toLower
  if sign.isPrefixOf lower then
    let code := lower.drop sign.length
    if code.isEmpty then throw .noCode
    if code.getLast? == some '-' then throw .codeEndsInHyphen
    match Text.Punycode.decode? code with
    | none => throw .badCode
    | some cs =>
      check cs
      if Text.Punycode.encode cs != code then throw .badCode
      return cs
  else
    check lower
    return lower

/-- A label in ASCII. -/
def encode (label : List Char) : Except NameFlaw (List Char) := do
  let written ← if label.all (·.toNat < 0x80) then do
      let _ ← decode label
      pure label
    else do
      check label
      pure (sign ++ Text.Punycode.encode label)
  if lengthLimit < written.length then throw .longLabel
  return written

end Label

end Statechart.Http
