import Statechart.Value.Attribute
import Statechart.Value.Format
import Statechart.Value.Item

/-!
# Templates

A template is text with fields in braces. A field names one of the values given, then goes on by names and
places to a value inside it, and may ask for the literal form and for a layout, which may hold fields itself.
A doubled brace stands for itself. Fields are filled from left to right, so the first fault is the one reported.
-/

set_option autoImplicit false
set_option relaxedAutoImplicit false

namespace Statechart.Text.Template

/-- A field as it is written. -/
structure Field where
  name : List Char
  conversion : Option Char := none
  layout : List Char := []

/-- The name of a field and what follows it, from the closing brace, colon or exclamation mark on. -/
def readName (inBracket : Bool) : List Char → Outcome (List Char × List Char)
  | [] => .error .badValue
  | c :: rest =>
    if inBracket then (readName (c != ']') rest).map fun (name, after) ↦ (c :: name, after)
    else if c == '{' then .error .badValue
    else if c == '}' || c == ':' || c == '!' then .ok ([], c :: rest)
    else (readName (c == '[') rest).map fun (name, after) ↦ (c :: name, after)

/-- The layout of a field up to the brace that closes the field; inner braces come in pairs. -/
def readLayout (depth : Nat) : List Char → Outcome (List Char × List Char)
  | [] => .error .badValue
  | c :: rest =>
    if c == '}' && depth == 0 then .ok ([], rest)
    else
      let depth := if c == '{' then depth + 1 else if c == '}' then depth - 1 else depth
      (readLayout depth rest).map fun (layout, after) ↦ (c :: layout, after)

/-- A field behind its opening brace. -/
def readField (cs : List Char) : Outcome (Field × List Char) := do
  let (name, rest) ← readName false cs
  match rest with
  | '!' :: conversion :: '}' :: after => return (⟨name, some conversion, []⟩, after)
  | '!' :: conversion :: ':' :: after =>
    let (layout, after) ← readLayout 0 after
    return (⟨name, some conversion, layout⟩, after)
  | '!' :: _ => throw .badValue
  | ':' :: after =>
    let (layout, after) ← readLayout 0 after
    return (⟨name, none, layout⟩, after)
  | '}' :: after => return (⟨name, none, []⟩, after)
  | _ => throw .badValue

/-- The text up to the first brace, and that brace with what follows. -/
def untilBrace (cs : List Char) : List Char × List Char :=
  (cs.takeWhile fun c ↦ c != '{' && c != '}', cs.dropWhile fun c ↦ c != '{' && c != '}')

/-- The number that a name of digits alone stands for. -/
def placeOf (cs : List Char) : Outcome (Option Nat) :=
  if cs.isEmpty || cs.any fun c ↦ (digit? c).isNone then .ok none
  else
    let n := cs.foldl (fun n c ↦ 10 * n + (digit? c).getD 0) 0
    if n ≤ 9223372036854775807 then .ok (some n) else .error .badValue

/-- The attribute of a value under a name. -/
def part (v : Value) (name : String) : Outcome Value :=
  match v.attribute? name with
  | some found => .ok found
  | none => .error (.plain .missingAttribute)

/-- The item of a value at a place or under a key. -/
def item (v : Value) (name : List Char) (place : Option Nat) : Outcome Value :=
  v.item (match place with
    | some n => .int n
    | none => .text (String.ofList name))

/-- Follows names behind points and places in brackets into a value. -/
def follow : Nat → List Char → Value → Outcome Value
  | 0, _, _ => .error .badValue
  | _ + 1, [], v => .ok v
  | fuel + 1, '.' :: rest, v => do
    let name := rest.takeWhile fun c ↦ c != '.' && c != '['
    if name.isEmpty then throw .badValue
    follow fuel (rest.drop name.length) (← part v (String.ofList name))
  | fuel + 1, '[' :: rest, v => do
    let name := rest.takeWhile (· != ']')
    match rest.drop name.length with
    | [] => throw .badValue
    | _ :: after =>
      let place ← placeOf name
      if name.isEmpty then throw .badValue
      follow fuel after (← item v name place)
  | _ + 1, _ :: _, _ => .error .badValue

/-- The value that the name of a field leads to. -/
def locate (values : List (String × Value)) (name : List Char) : Outcome Value := do
  let first := name.takeWhile fun c ↦ c != '.' && c != '['
  let place ← placeOf first
  if first.isEmpty || place.isSome then throw (.plain .outOfRange)
  match values.find? fun v ↦ v.1 == String.ofList first with
  | none => throw .missingKey
  | some (_, v) => follow (name.length + 1) (name.drop first.length) v

def convert (v : Value) : Option Char → Outcome Value
  | none => .ok v
  | some 's' => v.shown?.map .text
  | some 'r' => v.literal?.map .text
  | some 'a' => v.literal?.map fun s ↦ .text (asciiOnly s)
  | some _ => .error .badValue

/-- Fills the fields of a template; layouts are filled first, one level deep. -/
def fill (values : List (String × Value)) (depth : Nat) : Nat → List Char → Outcome (List Char)
  | 0, _ => .error .badValue
  | fuel + 1, cs => do
    let (plain, rest) := untilBrace cs
    match rest with
    | [] => return plain
    | '{' :: '{' :: after => return plain ++ '{' :: (← fill values depth fuel after)
    | '}' :: '}' :: after => return plain ++ '}' :: (← fill values depth fuel after)
    | '{' :: after =>
      if after.isEmpty then throw .badValue
      let (field, after) ← readField after
      let v ← convert (← locate values field.name) field.conversion
      let layout ← match field.layout.contains '{', depth with
        | false, _ => pure field.layout
        | true, 0 => throw .badValue
        | true, depth + 1 => fill values depth fuel field.layout
      let written ← v.format layout
      return plain ++ written.toList ++ (← fill values depth fuel after)
    | _ => throw .badValue

/-- The text of a template with the values put into its fields. -/
def render (template : String) (values : List (String × Value)) : Outcome String :=
  (fill values 1 (template.length + 1) template.toList).map String.ofList

end Statechart.Text.Template
