import Statechart.Failure
import Statechart.Value.Table
import Statechart.Yaml.Node

/-!
# Values of YAML documents

A document is read as a value made of the standard types only. Collections are begun empty and filled later, those
that were begun first before those that stand within them, so a malformed part is found in that order. Of two entries
with one key the later value stands; the entries that a mapping merges come before its own.
-/

set_option autoImplicit false
set_option relaxedAutoImplicit false

namespace Statechart.Yaml

namespace Scalar

def Fault.toFailure : Fault → Failure
  | .malformed => .plain .badYaml
  | .badValue => .badValue
  | .missingKey => .missingKey
  | .missingAttribute => .plain .missingAttribute
  | .outOfRange => .plain .outOfRange
  | .overflow => .plain .overflow

end Scalar

/-- What is known of the value of a node: the value itself, or the nodes that a collection is made of. -/
inductive Built where
  | begun
  | atom (v : Value)
  | items (ids : List Nat)
  | pairs (ids : List (Nat × Nat))
  | members (keys : List Value)
  | entries (es : List (Value × Nat))
deriving Repr, Inhabited

/-- Where the building of values stands. -/
structure Building where
  nodes : Array Node
  built : List (Nat × Built) := []
  /-- Collections in the order in which they were begun. -/
  begun : Array Nat := #[]

abbrev Build (α : Type) := StateT Building (Except Failure) α

namespace Build

def malformed {α : Type} : Build α := throw (.plain .badYaml)

def nodeAt (id : Nat) : Build Node := do return ((← get).nodes[id]?).getD (.scalar .other "")

def setNode (id : Nat) (n : Node) : Build Unit := modify fun b ↦ { b with nodes := b.nodes.setIfInBounds id n }

def builtAt (id : Nat) : Build (Option Built) := do return (← get).built.lookup id

def setBuilt (id : Nat) (v : Built) : Build Unit := modify fun b ↦ { b with built := (id, v) :: b.built }

/-- A bound for walks that enter no node twice. -/
def bound : Build Nat := do return (← get).nodes.size + 1

def kindOf : Node → Kind
  | .scalar k _ | .sequence k _ | .mapping k _ => k

/-! ### Merging -/

/-- The entries of a mapping node. -/
def entriesOf (id : Nat) : Build (Option (List (Nat × Nat))) := do
  match ← nodeAt id with
  | .mapping _ es => return some es
  | _ => return none

/-- What the entries of a mapping from a place on merge, as merged nodes give it. Marks for merging are removed on the
way, and the key of a default becomes a text. -/
def mergedOf (mergedFrom : Nat → Build (List (Nat × Nat))) (id place : Nat) : Nat → Build (List (Nat × Nat))
  | 0 => return []
  | steps + 1 => do
    match ← nodeAt id with
    | .mapping kind es =>
      match es[place]? with
      | none => return []
      | some (k, v) =>
        match ← nodeAt k with
        | .scalar .merge _ | .sequence .merge _ | .mapping .merge _ =>
          setNode id (.mapping kind (es.eraseIdx place))
          let here ← mergedFrom v
          return here ++ (← mergedOf mergedFrom id place steps)
        | key =>
          match key with
          | .scalar .value text => setNode k (.scalar .str text)
          | .sequence .value items => setNode k (.sequence .str items)
          | .mapping .value entries => setNode k (.mapping .str entries)
          | _ => pure ()
          mergedOf mergedFrom id (place + 1) steps
    | _ => return []

/-- Flattens mappings in order; anything else is refused. -/
def flattenAll (flatten : Nat → Build Unit) : List Nat → Build Unit
  | [] => return
  | id :: rest => do
    match ← nodeAt id with
    | .mapping _ _ =>
      flatten id
      flattenAll flatten rest
    | _ => malformed

mutual

/-- Puts the entries that a mapping merges before its own, for good. -/
def flatten : Nat → Nat → Build Unit
  | 0, _ => throw (.plain .tooDeep)
  | fuel + 1, id => do
    match ← nodeAt id with
    | .mapping _ es =>
      let merged ← mergedOf (mergedFrom fuel) id 0 es.length
      match ← nodeAt id with
      | .mapping kind own => setNode id (.mapping kind (merged ++ own))
      | _ => return
    | _ => return
termination_by structural fuel _ => fuel

/-- The entries that a merged node gives: a mapping, or a sequence of mappings of which the first counts most. -/
def mergedFrom : Nat → Nat → Build (List (Nat × Nat))
  | 0, _ => throw (.plain .tooDeep)
  | fuel + 1, id => do
    match ← nodeAt id with
    | .mapping _ _ =>
      flatten fuel id
      return ((← entriesOf id).getD [])
    | .sequence _ sources =>
      flattenAll (flatten fuel) sources
      let parts ← sources.mapM fun s ↦ do return ((← entriesOf s).getD [])
      return parts.reverse.flatten
    | .scalar _ _ => malformed
termination_by structural fuel _ => fuel

end

/-! ### Values -/

/-- The text of a scalar; a mapping gives the one under its default key. -/
def textOf : Nat → Nat → Build String
  | 0, _ => throw (.plain .tooDeep)
  | fuel + 1, id => do
    match ← nodeAt id with
    | .scalar _ text => return text
    | .sequence _ _ => malformed
    | .mapping _ es =>
      match ← es.findM? fun e ↦ do return kindOf (← nodeAt e.1) == .value with
      | some (_, v) => textOf fuel v
      | none => malformed

/-- What is not a number stands for itself at its node, unless its name gave it a mark. -/
def marked (id : Nat) : Value → Value
  | .float d => .float (if d == .nan then .nanOf (Value.documentSize + id) else d)
  | v => v

/-- Begins the value of a node, unless it has one. -/
def begin (id : Nat) : Build Built := do
  if let some v ← builtAt id then return v
  let n ← nodeAt id
  match kindOf n with
  | .map | .seq | .set | .omap | .pairs =>
    modify fun b ↦ { b with begun := b.begun.push id }
    setBuilt id .begun
    return .begun
  | kind =>
    if kind == .other || kind == .merge || kind == .value then malformed
    let text ← textOf (← bound) id
    if let (.timestamp, .mapping _ _) := (kind, n) then throw .wrongType
    let v := marked id (← (Scalar.value kind text).mapError Scalar.Fault.toFailure)
    setBuilt id (.atom v)
    return .atom v

/-- The keys of entries with the nodes of their values. -/
def entries : List (Nat × Nat) → Build (List (Value × Nat))
  | [] => return []
  | (k, v) :: rest => do
    match ← begin k with
    | .atom key =>
      if !key.isKey then malformed
      let _ ← begin v
      return (key, v) :: (← entries rest)
    | _ => malformed

/-- The entries of a mapping with what it merges. -/
def mappingOf (id : Nat) : Build (List (Value × Nat)) := do
  match ← nodeAt id with
  | .mapping _ _ =>
    flatten (4 * (← bound) * (← bound)) id
    match ← entriesOf id with
    | some es => entries es
    | none => malformed
  | _ => malformed

/-- The one entry of each mapping of a sequence. -/
def singles : List Nat → Build (List (Nat × Nat))
  | [] => return []
  | id :: rest => do
    match ← nodeAt id with
    | .mapping _ [(k, v)] =>
      let _ ← begin k
      let _ ← begin v
      return (k, v) :: (← singles rest)
    | _ => malformed

/-- Fills a collection that was begun. -/
def fill (id : Nat) : Build Unit := do
  let n ← nodeAt id
  match kindOf n, n with
  | .map, _ => setBuilt id (.entries (← mappingOf id))
  | .set, _ => setBuilt id (.members ((← mappingOf id).map (·.1)))
  | .seq, .sequence _ ids =>
    ids.forM fun i ↦ do
      let _ ← begin i
    setBuilt id (.items ids)
  | .omap, .sequence _ ids | .pairs, .sequence _ ids => setBuilt id (.pairs (← singles ids))
  | _, _ => malformed

/-- Fills the collections that were begun, in order, with those that are begun on the way. -/
def fillFrom : Nat → Nat → Build Unit
  | 0, _ => return
  | fuel + 1, place => do
    match (← get).begun[place]? with
    | none => return
    | some id =>
      fill id
      fillFrom fuel (place + 1)

/-- The distance of the labels of neighbouring pairs. -/
def pairStep : Nat := Nat.pow 2 16

/-- The value of a node, knotted where it stands within itself. A collection has the number of its node as its label,
and the pairs that it is made of have labels of their own. -/
def valueOf (built : List (Nat × Built)) : Nat → List Nat → Nat → Value
  | 0, _, _ => .null
  | fuel + 1, around, id =>
    let inner := valueOf built fuel (id :: around)
    match built.lookup id with
    | some (.atom v) => v
    | some (.items ids) =>
      if around.contains id then .again id false else .knotted id around (.list (ids.map inner))
    | some (.pairs ids) =>
      if around.contains id then .again id false
      else .knotted id around (.list (ids.mapIdx fun i (k, v) ↦
        .knotted (id + (i + 1) * pairStep) (id :: around) (.tuple [inner k, inner v])))
    | some (.members keys) => .set (Entries.keys (Entries.ofList (keys.map fun k ↦ (k, Value.null))))
    | some (.entries es) =>
      if around.contains id then .again id true
      else .knotted id around (.table (Entries.ofList (es.map fun (k, v) ↦ (k, inner v))))
    | _ => .null

/-- The value of a document. -/
def document (root : Nat) : Build Value := do
  let _ ← begin root
  fillFrom (← bound) 0
  return valueOf (← get).built (← bound) [] root

end Build

/-- The value of a text that holds one document, null if it holds none. -/
def load (text : String) : Outcome Value :=
  match Document.read text with
  | .error f => .error (.plain f)
  | .ok none => .ok .null
  | .ok (some d) => ((Build.document d.root).run { nodes := d.nodes }).map (·.1)

end Statechart.Yaml
