import Statechart.Failure
import Statechart.Value.Table

/-!
# Items of values

Values that hold others give them out one by one, or the one at a place or under a key.
-/

set_option autoImplicit false
set_option relaxedAutoImplicit false

namespace Statechart

namespace Value

/-- The values that a value holds, in order; those of a table are its keys. -/
def elements (v : Value) : Outcome (List Value) :=
  match v.opened with
  | .list items | .tuple items | .set items => .ok items
  | .text s | .symbol _ s => .ok (s.toList.map fun c ↦ .text (String.ofList [c]))
  | .bytes b => .ok (b.map fun n ↦ .int n.toNat)
  | .table entries => .ok (Entries.keys entries)
  | _ => .error .wrongType

/-- The item of a value at a place, counted from zero, or under a key. -/
def item (v key : Value) : Outcome Value :=
  let under (entries : Entries) : Outcome Value :=
    match Entries.find? entries key with
    | some found => .ok found
    | none => .error .missingKey
  match v.opened, key with
  | .table entries, _ => under entries
  | .event _ data, _ => under data
  | .set _, _ => .error .wrongType
  | v, .int n => do
    match (← v.elements)[n.toNat]? with
    | some found => return found
    | none => throw (.plain .outOfRange)
  | _, _ => .error .wrongType

/-- The two values that a value holds. -/
def pair (v : Value) : Outcome (Value × Value) := do
  match ← v.elements with
  | [a, b] => return (a, b)
  | _ => throw .badValue

end Value

namespace Entries

/-- The entries of a table, or of pairs of keys and values. -/
def ofValue (v : Value) : Outcome Entries :=
  match v.opened with
  | .table entries => .ok entries
  | v => do
    let pairs ← (← v.elements).mapM Value.pair
    if pairs.all fun p ↦ p.1.isKey then return ofList pairs else throw .wrongType

end Entries

end Statechart
