import Statechart.Http.Percent
import Statechart.Text.Charset
import Statechart.Value.Arithmetic
import Statechart.Value.Item

/-!
# Query parameters

Parameters are fields by name, each with one value or a list of values, and are written one after the other. They are
given as a table, as pairs, or as a text in which they are written already.
-/

set_option autoImplicit false
set_option relaxedAutoImplicit false

namespace Statechart.Http.Query

/-- Fields in the order of their names. -/
abbrev Fields := List (String × List String)

/-- A value in a query: truth values are written as words, and null is empty. -/
def written : Value → Outcome String
  | .bool b => .ok (if b then "true" else "false")
  | .null => .ok ""
  | v => v.shown?

def valuesOf : Value → List Value
  | .list xs | .tuple xs => xs
  | v => [v]

/-- Puts the values of a field in place of those of the same name. -/
def put (fields : Fields) (name : String) (values : List String) : Fields :=
  if (fields.lookup name).isSome then fields.map fun f ↦ if f.1 == name then (name, values) else f
  else fields ++ [(name, values)]

/-- Adds a value to a field. -/
def add (fields : Fields) (name value : String) : Fields :=
  put fields name ((fields.lookup name).getD [] ++ [value])

/-- The fields of values by names that are not texts yet. -/
def ofEntries (entries : List (Value × List Value)) : Outcome Fields :=
  entries.foldlM (fun out (k, vs) ↦ do
    let name ← k.shown?
    return put out name (← vs.mapM written)) []

/-- Pairs of names and values; values of one name are put together. -/
def ofPairs (items : List Value) : Outcome Fields := do
  let entries ← items.foldlM (fun (out : List (Value × List Value)) item ↦ do
    let key ← item.item (.int 0)
    if !key.isKey then throw .wrongType
    let value ← item.item (.int 1)
    return Entries.insert out key ((Entries.find? out key).getD [] ++ [value])) []
  ofEntries entries

/-- A part of a URL without percent signs that stand for bytes. -/
def plainPart (s : String) : String :=
  Percent.decode (fun bytes ↦ Text.Charset.shown (Text.Charset.Unicode.utf8 bytes.length bytes)) s

/-- A name or a value that is written in a query. -/
def plain (s : String) : String := plainPart (s.map fun c ↦ if c == '+' then ' ' else c)

/-- Fields between ampersands; what has no sign of equality is a name without a value. -/
def ofText (s : String) : Fields :=
  ((s.splitOn "&").filter (· != "")).foldl (fun out field ↦
    let name := field.toList.takeWhile (· != '=')
    add out (plain (String.ofList name)) (plain (String.ofList (field.toList.drop (name.length + 1))))) []

/-- The fields that parameters stand for. -/
def ofValue : Value → Outcome Fields
  | .table es => ofEntries (es.map fun (k, v) ↦ (k, valuesOf v))
  | .list items | .tuple items => ofPairs items
  | .bytes b =>
    if b.all (· < 0x80) then .ok (ofText (Percent.latin b)) else .error (.plain .undecodable)
  | v => match v.asText? with
    | some s => .ok (ofText s)
    | none => .error (.plain .missingAttribute)

/-- Fields as a query, in order. -/
def text (fields : Fields) : String :=
  "&".intercalate (fields.flatMap fun (name, values) ↦
    values.map fun v ↦ Percent.field name ++ "=" ++ Percent.field v)

/-- The query that parameters ask for: null asks for none of its own, and no parameters ask for an empty one. -/
def ofParameters (params : Value) : Outcome (Option (Option String)) := do
  if params matches .null then return none
  if !params.isTruthy then return some none
  let fields ← ofValue params
  return some (if fields.isEmpty then none else some (text fields))

end Statechart.Http.Query
