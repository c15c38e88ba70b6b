import Statechart.Failure
import Statechart.Http.Percent
import Statechart.Number.Numeral
import Statechart.Text.Blank
import Statechart.Text.Charset
import Statechart.Text.Letters

/-!
# Parameters of media types

A media type has parameters behind semicolons. A parameter may be written in numbered pieces, and in percent signs behind
the names of a character set and of a language. Of parameters with one name the first stands, those in one piece before
the others.
-/

set_option autoImplicit false
set_option relaxedAutoImplicit false

namespace Statechart.Http.MediaType

/-- The pieces between semicolons; one between quotes is part of its piece. The piece that is being read is kept in
reverse. -/
def pieces (quoted : Bool) (piece : List Char) : List Char → List (List Char)
  | [] => [piece.reverse]
  | c :: rest =>
    if c == ';' && !quoted then piece.reverse :: pieces false [] rest
    else pieces (if c == '"' && piece.head? != some '\\' then !quoted else quoted) (c :: piece) rest

/-- Name and value of a piece. A name is in lower case if a value follows. -/
def field (piece : List Char) : String × String :=
  let name := piece.takeWhile (· != '=')
  match piece.drop name.length with
  | [] => (String.ofList (Text.trimChars name), "")
  | _ :: value =>
    (Text.lower (String.ofList (Text.trimChars name)), String.ofList (Text.trimChars value))

def fields (type : String) : List (String × String) := (pieces false [] type.toList).map field

def escape (s : String) : String := (s.replace "\\" "\\\\").replace "\"" "\\\""

/-- Without quotes or angles at both ends. -/
def bare (s : String) : String :=
  let cs := s.toList
  let inner := String.ofList ((cs.drop 1).dropLast)
  if cs.length < 2 then s
  else if cs.head? == some '"' && cs.getLast? == some '"' then (inner.replace "\\\\" "\\").replace "\\\"" "\""
  else if cs.head? == some '<' && cs.getLast? == some '>' then inner
  else s

/-- A value that was written down, as it is read. -/
def reread (s : String) : String := bare ("\"" ++ s ++ "\"")

/-- One of the pieces of a value. -/
structure Section where
  number : Option Nat
  value : String
  /-- Percent signs stand for bytes. -/
  encoded : Bool

/-- The name and the place of a piece, if a name is that of a piece. -/
def sectionName? (name : String) : Option (String × Option String) :=
  let cs := name.toList
  let stem := cs.takeWhile fun c ↦ c.isAlphanum || c == '_'
  match cs.drop stem.length with
  | '*' :: rest =>
    let digits := rest.takeWhile Char.isDigit
    let behind := rest.drop digits.length
    if stem.isEmpty then none
    else if rest.isEmpty then some (String.ofList stem, none)
    else if !digits.isEmpty && (behind.isEmpty || behind == ['*']) then
      some (String.ofList stem, some (String.ofList digits))
    else none
  | _ => none

/-- Whether a piece stands before another one, or in the same place. -/
def Section.before (a b : Section) : Bool :=
  let x := a.number.getD 0
  let y := b.number.getD 0
  x < y || (x == y && (a.value < b.value || (a.value == b.value && (!a.encoded || b.encoded))))

/-- Pieces in order; numbered ones cannot be ordered among others. -/
def inOrder (sections : List Section) : Outcome (List Section) :=
  if sections.any (·.number.isNone) && sections.any (·.number.isSome) then .error .wrongType
  else .ok (sections.mergeSort Section.before)

/-- A value of a parameter, perhaps with the character set in which it is written. -/
structure Parameter where
  value : String
  charset : Option String := none
  extended : Bool := false

/-- Up to two marks split what stands in front of a value. -/
def splitMarks (s : String) : Option String × String :=
  let cs := s.toList
  let first := cs.takeWhile (· != '\'')
  let rest := (cs.drop first.length).drop 1
  let second := rest.takeWhile (· != '\'')
  match rest.drop second.length with
  | _ :: value => (some (String.ofList first), String.ofList value)
  | [] => (none, s)

/-- Pieces as one value. -/
def assemble (sections : List Section) : Outcome Parameter := do
  let sections ← inOrder sections
  let value := escape (String.join (sections.map fun s ↦
    if s.encoded then Percent.decode Percent.latin s.value else s.value))
  if sections.any (·.encoded) then
    let (charset, value) := splitMarks value
    return { value := reread value, charset := charset, extended := true }
  else return { value := reread value }

/-- The pieces of the parameters of a media type by their names, in the order of their first pieces. -/
def sectionsOf : List (String × String) → Outcome (List (String × List Section))
  | [] => .ok []
  | (name, value) :: rest => do
    match sectionName? name with
    | none => sectionsOf rest
    | some (stem, digits) =>
      let number ← match digits with
        | none => pure none
        | some ds => if Numeral.digitLimit < ds.length then throw .badValue else pure (some (Numeral.natOf ds.toList))
      let one : Section := ⟨number, bare value, name.endsWith "*"⟩
      let others ← sectionsOf rest
      let same := (others.lookup stem).getD []
      return (stem, one :: same) :: others.filter fun o ↦ o.1 != stem

/-- The parameters of a media type; the first field may be the type itself. -/
def parameters (type : String) : Outcome (List (String × Parameter)) := do
  let all := fields type
  let first := (all.take 1).map fun f ↦ (f.1, ({ value := bare f.2 } : Parameter))
  let whole := ((all.drop 1).filter fun f ↦ (sectionName? f.1).isNone).map fun f ↦
    (f.1, ({ value := reread (escape (bare f.2)) } : Parameter))
  let parts ← (← sectionsOf (all.drop 1)).mapM fun (name, sections) ↦ do return (name, ← assemble sections)
  return first ++ whole ++ parts

/-- The bytes of a text; characters that are no bytes are written by their numbers. -/
def bytesOf (s : String) : List UInt8 :=
  s.toList.flatMap fun c ↦
    if c.toNat < 0x100 then [UInt8.ofNat c.toNat]
    else
      let digits := Nat.toDigits 16 c.toNat
      let width := if c.toNat < 0x10000 then 4 else 8
      (('\\' :: (if width == 4 then 'u' else 'U') :: List.replicate (width - digits.length) '0') ++ digits).map
        fun d ↦ UInt8.ofNat d.toNat

/-- The character set of a name, unless no name is like that. -/
def setNamed? (name : String) : Outcome (Option Text.Charset) :=
  if name.toList.contains '\x00' then .error (.foreign .badValue "embedded null character")
  else .ok (Text.Charset.named? name)

/-- The value of a parameter as a text. -/
def textOf (p : Parameter) : Outcome String := do
  if !p.extended then return p.value
  let name := p.charset.getD ""
  match ← setNamed? (if name == "" then "us-ascii" else name) with
  | none => return p.value
  | some set => return (set.text? (bytesOf p.value)).getD p.value

/-- The name of the character set that a media type gives. -/
def charset? (type : String) : Outcome (Option String) := do
  match (← parameters type).find? fun p ↦ Text.lower p.1 == "charset" with
  | none => return none
  | some (_, p) =>
    let name ← textOf p
    return if name.toList.all (·.toNat < 0x80) then some (Text.lower name) else none

end Statechart.Http.MediaType
