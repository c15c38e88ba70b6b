import Statechart.Action
import Statechart.Newsletter.Machine
import Statechart.Number.Numeral
import Statechart.Value.Arithmetic

/-!
# Values as JSON

JSON has no form for most values. Such a value is written as an object with one name, a tag that begins with a dollar
sign; a table is written as a list of pairs when its keys are not all texts or when it could be taken for a tagged
value. Reading gives back the value, and knows some tags that are never written.
-/

set_option autoImplicit false
set_option relaxedAutoImplicit false

namespace Statechart.Tagged

def tag (name : String) (v : Value) : Value := .ofFields [(name, v)]

/-- The tag and the content of a tagged value. -/
def tag? : Value → Option (String × Value)
  | .table [(.text name, v)] => if name.startsWith "$" then some (name, v) else none
  | _ => none

/-! ### Writing -/

/-- The written items of a set in the order of the texts of the items. -/
def ordered (items written : List Value) : List Value :=
  ((items.zip written).mergeSort fun a b ↦ a.1.literal ≤ b.1.literal).map (·.2)

/-- Whether a table with these keys is written as an object. -/
def isPlain (keys : List Value) : Bool :=
  match keys with
  | [k] => (k.asText?).any fun name ↦ !name.startsWith "$"
  | many => many.all fun k ↦ (k.asText?).isSome

/-- A table of entries whose values, and keys for the case of pairs, are written already. -/
def object (entries : Entries) (written : List (Value × Value)) : Value :=
  if isPlain (Entries.keys entries) then
    .table (List.zipWith (fun e w ↦ (.text ((e.1.asText?).getD ""), w.2)) entries written)
  else tag "$pairs" (.list (written.map fun w ↦ .list [w.1, w.2]))

def tokenForm (name : String) (cancelled : Bool) (reason : Value) : Value :=
  tag "$token" (.ofFields [("name", .text name), ("cancelled", .bool cancelled), ("reason", reason)])

/-- The tag of the records of a class. -/
def recordTag : String → String
  | "NewsletterContext" => "$newsletter"
  | "Event" => "$event"
  | _ => "$form"

mutual

/-- The JSON value that stands for a value. -/
def encode (v : Value) : Value :=
  match v with
  | .null => .null
  | .bool b => .bool b
  | .int i => .int i
  | .float d => tag "$float" (.text d.text)
  | .text s => .text s
  | .symbol _ s => .text s
  | .bytes b => tag "$bytes" (.text (String.join (b.map fun x ↦ String.ofList (Text.hex 2 x.toNat))))
  | .list xs => .list (encodeAll xs)
  | .tuple xs => tag "$tuple" (.list (encodeAll xs))
  | .set xs => tag "$set" (.list (ordered xs (encodeAll xs)))
  | .table es => object es (encodeEntries es)
  | .event kind data =>
    tag "$event" (.ofFields [("type", encode kind), ("data", object data (encodeEntries data))])
  | .record name fields => tag (recordTag name) (.ofFields (encodeFields fields))
  | .token name => tokenForm name false .null
  | .tokenView name cancelled reason => tokenForm name cancelled (encode reason)
  | .type name _ => tag "$type" (.text name)
  | .moment m => tag "$date" (.text m.iso)
  | .method _ _ name _ | .member _ _ name => .text name
  | .knot _ inside => encode inside
  | .again label isTable => .again label isTable
termination_by structural v

def encodeAll (vs : List Value) : List Value :=
  match vs with
  | [] => []
  | v :: rest => encode v :: encodeAll rest
termination_by structural vs

def encodeEntries (es : List (Value × Value)) : List (Value × Value) :=
  match es with
  | [] => []
  | e :: rest => encodeEntry e :: encodeEntries rest
termination_by structural es

def encodeEntry (e : Value × Value) : Value × Value :=
  match e with
  | (k, v) => (encode k, encode v)
termination_by structural e

def encodeFields (fs : List (String × Value)) : List (String × Value) :=
  match fs with
  | [] => []
  | f :: rest => encodeField f :: encodeFields rest
termination_by structural fs

def encodeField (f : String × Value) : String × Value :=
  match f with
  | (k, v) => (k, encode v)
termination_by structural f

end

/-- Why a value has no written form. -/
def refusal? (v : Value) : Option Failure :=
  if v.isCyclic then some (.plain .tooDeep) else if v.isWritable then none else some .badValue

/-! ### Occurrences -/

/-- The content of a tag for numbers: what is not a number stands for itself, under a mark. -/
def occurrence (mark : Nat) (v : Value) : Value :=
  match v with
  | .text s => if (Numeral.double? s).any Double.isNaN then .float (.nanOf mark) else v
  | v => v

mutual

/-- The JSON value with marks from a number on in the place of what is not a number, and the next mark. -/
def markFrom (mark : Nat) (v : Value) : Value × Nat :=
  match v with
  | .list xs =>
    let (xs, mark) := markAll mark xs
    (.list xs, mark)
  | .table es =>
    let (es, mark) := markEntries mark es
    (.table (match es with
      | [(.text "$float", v)] => [(.text "$float", occurrence mark v)]
      | es => es), mark + 1)
  | v => (v, mark)
termination_by structural v

def markAll (mark : Nat) (vs : List Value) : List Value × Nat :=
  match vs with
  | [] => ([], mark)
  | v :: rest =>
    let (v, mark) := markFrom mark v
    let (rest, mark) := markAll mark rest
    (v :: rest, mark)
termination_by structural vs

def markEntries (mark : Nat) (es : List (Value × Value)) : List (Value × Value) × Nat :=
  match es with
  | [] => ([], mark)
  | e :: rest =>
    let (e, mark) := markEntry mark e
    let (rest, mark) := markEntries mark rest
    (e :: rest, mark)
termination_by structural es

def markEntry (mark : Nat) (e : Value × Value) : (Value × Value) × Nat :=
  match e with
  | (k, v) =>
    let (v, mark) := markFrom mark v
    ((k, v), mark)
termination_by structural e

end

/-- The JSON value in which every occurrence of what is not a number can be told from the others; the first marks are
left to names. -/
def marked (v : Value) : Value := (markFrom 2 v).1

/-! ### Reading -/

/-- The member of an object. -/
def member? (v : Value) (name : String) : Option Value :=
  match v with
  | .table es => Entries.get? es name
  | _ => none

/-- The member of an object, or null. -/
def member (v : Value) (name : String) : Value := (member? v name).getD .null

def textOf (v : Value) : String := (v.asText?).getD ""

def listOf : Value → List Value
  | .list xs => xs
  | _ => []

def entriesOf : Value → Entries
  | .table es => es
  | _ => []

/-- The members of an object. -/
def fieldsOf (v : Value) : List (String × Value) := (entriesOf v).map fun (k, v) ↦ (textOf k, v)

/-- The bytes of pairs of hexadecimal digits. -/
def bytesOfHex : List Char → List UInt8
  | a :: b :: rest =>
    UInt8.ofNat (((Text.hexDigit? a).getD 0) * 16 + (Text.hexDigit? b).getD 0) :: bytesOfHex rest
  | _ => []

/-- A table of pairs; what cannot be a key is refused. -/
def tableOf (pairs : List (Value × Value)) : Outcome Entries :=
  if pairs.all fun p ↦ p.1.isKey then .ok (Entries.ofList pairs) else .error .wrongType

def pairOf : Value → Outcome (Value × Value)
  | .list [k, v] => .ok (k, v)
  | _ => .error .wrongType

def event (v : Value) : Value := .event (member v "type") (entriesOf (member v "data"))

/-- An event with a payload under names, which are texts. -/
def namedEvent (v : Value) : Outcome Value :=
  if (entriesOf (member v "data")).all fun e ↦ e.1.asText?.isSome then .ok (event v) else .error .wrongType

/-- A form record as it is without changes. -/
def emptyForm : List (String × Value) := [("email", .text ""), ("error", .null)]

/-- The value of a tag over a content that is read already; no value where the tag is not known. -/
def interpret? (name : String) (v : Value) : Option (Outcome Value) :=
  match name with
  | "$float" => some (.ok (match v with
    | .float d => .float d
    | v => .float ((Numeral.double? (textOf v)).getD .zero)))
  | "$tuple" => some (.ok (.tuple (listOf v)))
  | "$pairs" => some (do return .table (← tableOf (← (listOf v).mapM pairOf)))
  | "$bytes" => some (.ok (.bytes (bytesOfHex (textOf v).toList)))
  | "$event" => some (.ok (event v))
  | "$of" => some (namedEvent v)
  | "$form" => some (do return .record "Form" (← Action.replaceFields emptyForm (fieldsOf v)))
  | "$formtype" => some (.ok (.type "Form" emptyForm))
  | "$newsletter" => some (Newsletter.update (fieldsOf v) (Newsletter.Signup.toValue {}))
  | "$token" => some (.ok (.token (textOf v)))
  | _ => none

/-- A table as the tagged value that it may be. -/
def ofTable (es : Entries) : Outcome Value :=
  match tag? (.table es) with
  | none => .ok (.table es)
  | some (name, v) => (interpret? name v).getD (.ok (.table es))

mutual

/-- The value for which a JSON value stands. -/
def decode (v : Value) : Outcome Value :=
  match v with
  | .list xs => do return .list (← decodeAll xs)
  | .table es => do ofTable (← decodeEntries es)
  | v => .ok v
termination_by structural v

def decodeAll (vs : List Value) : Outcome (List Value) :=
  match vs with
  | [] => .ok []
  | v :: rest => do return (← decode v) :: (← decodeAll rest)
termination_by structural vs

def decodeEntries (es : List (Value × Value)) : Outcome (List (Value × Value)) :=
  match es with
  | [] => .ok []
  | e :: rest => do return (← decodeEntry e) :: (← decodeEntries rest)
termination_by structural es

def decodeEntry (e : Value × Value) : Outcome (Value × Value) :=
  match e with
  | (k, v) => do return (k, ← decode v)
termination_by structural e

end

/-- The entries of an object, or of pairs whose keys are read, with their values left as they are. -/
def keyed (v : Value) : Outcome Entries :=
  match tag? v with
  | some ("$pairs", x) => do
    tableOf (← (listOf x).mapM fun p ↦ do
      let (k, v) ← pairOf p
      return (← decode k, v))
  | _ => .ok (entriesOf v)

/-- The members of an object, read. -/
def decodeMembers (v : Value) : Outcome (List (String × Value)) :=
  (fieldsOf v).mapM fun (name, x) ↦ do return (name, ← decode x)

/-- A member, read; a missing one is null. -/
def read (v : Value) (name : String) : Outcome Value := decode (member v name)

/-- A member, read; another value stands for a missing one. -/
def readOr (v : Value) (name : String) (otherwise : Value) : Outcome Value :=
  match member? v name with
  | some x => decode x
  | none => .ok otherwise

end Statechart.Tagged
