import Statechart.Number.Double
import Statechart.Value.Moment

/-!
# Dynamic values

Contexts, event types, payloads and documents are dynamic values: scalars, sequences, tables that keep the
order of their entries, events, and records with named fields. A live cancellation token is held by its name
alone; a token view is the picture of one at a moment.
-/

set_option autoImplicit false
set_option relaxedAutoImplicit false

namespace Statechart

/-- How a class has one of its members. -/
inductive MemberKind where
  /-- As a function that is written down in the class. -/
  | written
  /-- As a function that comes with the class. -/
  | builtin
  | operator
  /-- As a part that is worked out from a value. -/
  | computed
  /-- As a part that is kept in a value. -/
  | stored
deriving DecidableEq, Repr, Inhabited

inductive Value where
  | null
  | bool (b : Bool)
  | int (i : Int)
  | float (d : Double)
  | text (s : String)
  /-- A text that belongs to a closed family of names. -/
  | symbol (family name : String)
  | bytes (b : List UInt8)
  | list (items : List Value)
  | tuple (items : List Value)
  | set (items : List Value)
  | table (entries : List (Value × Value))
  | event (kind : Value) (data : List (Value × Value))
  | record (name : String) (fields : List (String × Value))
  | token (name : String)
  | tokenView (name : String) (cancelled : Bool) (reason : Value)
  /-- A class of records as a value, with the fields of its records and what they hold unless given. -/
  | type (name : String) (fields : List (String × Value))
  | moment (m : Moment)
  /-- What a class lets be done with its values, taken from one of them, or with the class itself. -/
  | method (kind : MemberKind) (owner name : String) (holder : Value)
  /-- A member of a class that is taken from no value. -/
  | member (kind : MemberKind) (owner name : String)
  /-- A list, tuple or table that stands within itself, where marks with its label take its place. -/
  | knot (label : Nat) (inside : Value)
  /-- The place of a labelled list, or table, within itself. -/
  | again (label : Nat) (isTable : Bool)
deriving Repr, Inhabited

/-- Entries in order, keys before values. -/
abbrev Entries := List (Value × Value)

namespace Value

/-- The name of the kind of a value. -/
def kindName : Value → String
  | .null => "NoneType"
  | .bool _ => "bool"
  | .int _ => "int"
  | .float _ => "float"
  | .text _ => "str"
  | .symbol family _ => family
  | .bytes _ => "bytes"
  | .list _ => "list"
  | .tuple _ => "tuple"
  | .set _ => "set"
  | .table _ => "dict"
  | .event _ _ => "Event"
  | .record name _ => name
  | .token _ | .tokenView _ _ _ => "CancellationToken"
  | .type _ _ => "type"
  | .moment m => m.kindName
  | .method .builtin _ _ _ => "builtin_function_or_method"
  | .method .operator _ _ _ => "method-wrapper"
  | .method _ _ _ _ => "method"
  | .member .written _ _ => "function"
  | .member .builtin _ _ => "method_descriptor"
  | .member .operator _ _ => "wrapper_descriptor"
  | .member .computed _ _ => "getset_descriptor"
  | .member .stored _ _ => "member_descriptor"
  | .knot _ inside => inside.kindName
  | .again _ isTable => if isTable then "dict" else "list"

/-- The text of a text value. -/
def asText? : Value → Option String
  | .text s => some s
  | .symbol _ s => some s
  | _ => none

/-- The integer of a truth value or an integer. -/
def asInt? : Value → Option Int
  | .bool b => some (if b then 1 else 0)
  | .int i => some i
  | _ => none

/-- Whether a value counts as true: empty, zero and null values do not. -/
def isTruthy : Value → Bool
  | .null => false
  | .bool b => b
  | .int i => i != 0
  | .float d => d.compareInt? 0 != some .eq
  | .text s => s != ""
  | .symbol _ s => s != ""
  | .bytes b => !b.isEmpty
  | .list xs => !xs.isEmpty
  | .tuple xs => !xs.isEmpty
  | .set xs => !xs.isEmpty
  | .table es => !es.isEmpty
  | .knot _ inside => inside.isTruthy
  | .event _ _ | .record _ _ | .token _ | .tokenView _ _ _ | .type _ _ | .moment _ | .method _ _ _ _
  | .member _ _ _ | .again _ _ => true

mutual

/-- Whether a value or some part of it, keys included, has a property. -/
def anyPart (p : Value → Bool) (v : Value) : Bool :=
  p v || (match v with
    | .list xs | .tuple xs | .set xs => anyItem p xs
    | .table es => anyEntry p es
    | .event kind data => anyPart p kind || anyEntry p data
    | .record _ fields => anyField p fields
    | .tokenView _ _ reason => anyPart p reason
    | .method _ _ _ holder => anyPart p holder
    | .knot _ inside => anyPart p inside
    | _ => false)
termination_by structural v

def anyItem (p : Value → Bool) (vs : List Value) : Bool :=
  match vs with
  | [] => false
  | v :: rest => anyPart p v || anyItem p rest
termination_by structural vs

def anyEntry (p : Value → Bool) (es : List (Value × Value)) : Bool :=
  match es with
  | [] => false
  | e :: rest => anySide p e || anyEntry p rest
termination_by structural es

def anySide (p : Value → Bool) (e : Value × Value) : Bool :=
  match e with
  | (k, v) => anyPart p k || anyPart p v
termination_by structural e

def anyField (p : Value → Bool) (fs : List (String × Value)) : Bool :=
  match fs with
  | [] => false
  | f :: rest => ofField p f || anyField p rest
termination_by structural fs

def ofField (p : Value → Bool) (f : String × Value) : Bool :=
  match f with
  | (_, v) => anyPart p v
termination_by structural f

end

/-- A table with text keys. -/
def ofFields (fields : List (String × Value)) : Value :=
  .table (fields.map fun (k, v) ↦ (.text k, v))

/-- A record whose first fields are given, the others holding what they hold by default. -/
def recordOf? (name : String) (fields : List (String × Value)) (given : List Value) : Option Value :=
  if fields.length < given.length then none
  else some (.record name (fields.zipIdx.map fun (f, i) ↦ (f.1, (given[i]?).getD f.2)))

/-- The class and the fields of a value that has fields: a record, or an event. -/
def asRecord? : Value → Option (String × List (String × Value))
  | .record name fields => some (name, fields)
  | .event kind data => some ("Event", [("type", kind), ("data", .table data)])
  | _ => none

/-- The value of a class with these fields. An event whose payload is no table is a record like others. -/
def withFields (name : String) (fields : List (String × Value)) : Value :=
  match fields with
  | [(first, kind), (second, .table data)] =>
    if name = "Event" ∧ first = "type" ∧ second = "data" then .event kind data else .record name fields
  | _ => .record name fields

/-- A list of texts. -/
def ofTexts (texts : List String) : Value := .list (texts.map .text)

end Value

end Statechart
