import Statechart.Machine.Build
import Statechart.Value.Arithmetic

/-!
# Formulas

A small language of pure functions of context and event, for assignments and guards that are given as data.
-/

set_option autoImplicit false
set_option relaxedAutoImplicit false

namespace Statechart

/-- A pure function of context and event. -/
inductive Formula where
  /-- The context with a value added to one of its entries. -/
  | inc (key amount : Value)
  | mul (key amount : Value)
  | append (key item : Value)
  /-- The context with an entry taken from the payload, which has to be there. -/
  | take (key source : Value)
  | takeOr (key source default : Value)
  | eventKind (key : Value)
  | const (v : Value)
  | contextEq (key v : Value)
  | contextLt (key v : Value)
  | contextGet (key : Value)
  | eventEq (key v : Value)
  /-- Whether a payload equals an entry of the context. -/
  | agree (source key : Value)
  | raise (f : Failure)

namespace Formula

/-- The item of a value under a key or at a place, counted from the end where negative. -/
def itemOf (v key : Value) : Outcome Value :=
  let within (items : List Value) : Outcome Value :=
    match key.asInt? with
    | none => .error .wrongType
    | some i =>
      let place := if i < 0 then i + items.length else i
      match if place < 0 then none else items[place.toNat]? with
      | some x => .ok x
      | none => .error (.plain .outOfRange)
  let under (entries : Entries) : Outcome Value :=
    if key.isKey then
      match Entries.find? entries key with
      | some x => .ok x
      | none => .error .missingKey
    else .error .wrongType
  match v.opened with
  | .table entries => under entries
  | .event _ data => under data
  | .list xs | .tuple xs => within xs
  | .text s | .symbol _ s => within (s.toList.map fun c ↦ .text (String.ofList [c]))
  | .bytes b => within (b.map fun n ↦ .int n.toNat)
  | _ => .error .wrongType

/-- The entry of a table, null if there is none. -/
def entryOf (v key : Value) : Outcome Value :=
  match v.opened with
  | .table entries =>
    if key.isKey then .ok ((Entries.find? entries key).getD .null) else .error .wrongType
  | .event kind data => (Event.mk kind data).get key .null
  | _ => .error (.plain .missingAttribute)

/-- A table with one entry written. -/
def withEntry (context key : Value) (value : Outcome Value) : Outcome Value :=
  match context.opened with
  | .table entries => do
    let v ← value
    if key.isKey then return .table (Entries.insert entries key v) else throw .wrongType
  | _ => .error .wrongType

def eval (f : Formula) (context : Value) (event : Event) : Outcome Value :=
  match f with
  | .inc key n => withEntry context key do (← itemOf context key).plus n
  | .mul key n => withEntry context key do (← itemOf context key).times n
  | .append key item => withEntry context key do
      return .list ((← (← itemOf context key).items) ++ [item])
  | .take key source => withEntry context key (event.item source)
  | .takeOr key source default => withEntry context key (event.get source default)
  | .eventKind key => withEntry context key (.ok event.kind)
  | .const v => .ok v
  | .contextEq key v => do return .bool ((← itemOf context key).same v)
  | .contextLt key v => do return .bool (← (← itemOf context key).before v)
  | .contextGet key => entryOf context key
  | .eventEq key v => do return .bool ((← event.get key .null).same v)
  | .agree source key => do
    match (← event.get source .null).same? (← itemOf context key) with
    | some answer => return .bool answer
    | none => throw (.plain .tooDeep)
  | .raise f => .error f

/-- A callable that evaluates a formula. -/
def callee {σ : Type} (name : String) (f : Formula) : Callee σ := .function (some name) f.eval

end Formula

end Statechart
