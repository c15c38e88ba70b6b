import Statechart.Yaml.Scalar
import Statechart.Yaml.Token

/-!
# Nodes of a YAML document

A document is made of scalars, sequences and mappings, each with a tag. Nodes know their children by number, so a
node may stand in several places, and within itself. A name given to a node stands for it wherever it is used again,
and may be given once only.
-/

set_option autoImplicit false
set_option relaxedAutoImplicit false

namespace Statechart.Yaml

inductive Node where
  | scalar (kind : Kind) (text : String)
  | sequence (kind : Kind) (items : List Nat)
  | mapping (kind : Kind) (entries : List (Nat × Nat))
deriving DecidableEq, Repr, Inhabited

/-- A document: its nodes, and which of them holds the others. -/
structure Document where
  nodes : Array Node
  root : Nat
deriving DecidableEq, Repr, Inhabited

namespace Document

structure Parse where
  tokens : List Token
  nodes : Array Node := #[]
  anchors : List (String × Nat) := []
  handles : List (String × String) := []
  /-- How many collections are being read. -/
  level : Nat := 0

abbrev Parsing (α : Type) := StateT Parse (Except Fault) α

def malformed {α : Type} : Parsing α := throw .badYaml

/-- The next token. -/
def peek : Parsing Token := do
  match (← get).tokens.head? with
  | some (.broken f) => throw f
  | some t => return t
  | none => return .streamEnd

def skip : Parsing Unit := modify fun p ↦ { p with tokens := p.tokens.drop 1 }

/-- Skips a token if it is the next one. -/
def skipIf (t : Token) : Parsing Bool := do
  if (← peek) == t then
    skip
    return true
  else return false

/-- The next token is one of those given. -/
def atAny (ts : List Token) : Parsing Bool := do return ts.contains (← peek)

/-- Adds a node and gives its number. -/
def add (n : Node) : Parsing Nat :=
  modifyGet fun p ↦ (p.nodes.size, { p with nodes := p.nodes.push n })

def empty : Parsing Nat := add (.scalar .null "")

/-- The tag that a handle and a suffix make. -/
def tagOf (handle : Option String) (suffix : String) : Parsing String := do
  match handle with
  | none => return suffix
  | some h =>
    match (← get).handles.lookup h with
    | some text => return text ++ suffix
    | none => malformed

/-- The kind of a scalar: the one that its tag names, else the one that its text shows. -/
def scalarKind (tag : Option String) (text : String) (isPlain : Bool) : Kind :=
  match tag with
  | some "!" => Scalar.plainKind text.toList
  | some t => .ofTag t
  | none => if isPlain then Scalar.plainKind text.toList else .str

def kindOr (default : Kind) : Option String → Kind
  | none | some "!" => default
  | some t => .ofTag t

/-- Adds a node under a name. -/
def addNamed (name : Option String) (n : Node) : Parsing Nat := do
  let id ← add n
  match name with
  | none => return id
  | some a =>
    let p ← get
    if (p.anchors.lookup a).isSome then malformed
    set { p with anchors := (a, id) :: p.anchors }
    return id

/-- How deep collections may stand within each other. -/
def levelLimit : Nat := 480

/-- Reads what stands within a collection. -/
def within {α : Type} (inner : Parsing α) : Parsing α := do
  if levelLimit ≤ (← get).level then throw .tooDeep
  modify fun p ↦ { p with level := p.level + 1 }
  let a ← inner
  modify fun p ↦ { p with level := p.level - 1 }
  return a

/-- Adds a sequence under a name, then reads its items, which may name it. -/
def addSequence (name tag : Option String) (items : Parsing (List Nat)) : Parsing Nat := do
  let kind := kindOr .seq tag
  let id ← addNamed name (.sequence kind [])
  let items ← within items
  modify fun p ↦ { p with nodes := p.nodes.setIfInBounds id (.sequence kind items) }
  return id

/-- Adds a mapping under a name, then reads its entries, which may name it. -/
def addMapping (name tag : Option String) (entries : Parsing (List (Nat × Nat))) : Parsing Nat := do
  let kind := kindOr .map tag
  let id ← addNamed name (.mapping kind [])
  let entries ← within entries
  modify fun p ↦ { p with nodes := p.nodes.setIfInBounds id (.mapping kind entries) }
  return id

/-- The name and the tag before a node, in either order. -/
def properties : Parsing (Option String × Option String) := do
  match ← peek with
  | .anchor a =>
    skip
    match ← peek with
    | .tag h s =>
      skip
      return (some a, some (← tagOf h s))
    | _ => return (some a, none)
  | .tag h s =>
    skip
    match ← peek with
    | .anchor a =>
      skip
      return (some a, some (← tagOf h s))
    | _ => return (none, some (← tagOf h s))
  | _ => return (none, none)

/-- Where a node may stand: in a flow collection, in a block, or in a block where the entries of a sequence
need not stand further to the right. -/
inductive Setting where
  | flow
  | block
  | blockOrEntries
deriving DecidableEq

mutual

def node (setting : Setting) : Nat → Parsing Nat
  | 0 => malformed
  | fuel + 1 => do
    match ← peek with
    | .alias a =>
      skip
      match (← get).anchors.lookup a with
      | some n => return n
      | none => malformed
    | _ =>
      let (name, tag) ← properties
      let t ← peek
      match t with
      | .blockEntry =>
        if setting == .blockOrEntries then
          addSequence name tag (entriesHere fuel)
        else noContent name tag
      | .scalar text isPlain =>
        skip
        addNamed name (.scalar (scalarKind tag text isPlain) text)
      | .flowSequenceStart =>
        skip
        addSequence name tag (flowItems true fuel)
      | .flowMappingStart =>
        skip
        addMapping name tag (flowEntries true fuel)
      | .blockSequenceStart =>
        if setting == .flow then noContent name tag
        else
          skip
          addSequence name tag (blockItems fuel)
      | .blockMappingStart =>
        if setting == .flow then noContent name tag
        else
          skip
          addMapping name tag (blockEntries fuel)
      | _ => noContent name tag

/-- A node of which there are only properties is an empty scalar. -/
def noContent (name tag : Option String) : Parsing Nat :=
  match name, tag with
  | none, none => malformed
  | name, tag => addNamed name (.scalar (scalarKind tag "" true) "")

/-- A node unless one of the tokens given comes next. -/
def nodeUnless (stops : List Token) (setting : Setting) : Nat → Parsing Nat
  | 0 => malformed
  | fuel + 1 => do
    if ← atAny stops then return ← empty
    node setting fuel

def blockItems : Nat → Parsing (List Nat)
  | 0 => malformed
  | fuel + 1 => do
    if ← skipIf .blockEntry then
      let n ← nodeUnless [.blockEntry, .blockEnd] .block fuel
      return n :: (← blockItems fuel)
    else if ← skipIf .blockEnd then return []
    else malformed

/-- The entries of a sequence that stands as far to the left as the mapping around it. -/
def entriesHere : Nat → Parsing (List Nat)
  | 0 => malformed
  | fuel + 1 => do
    if ← skipIf .blockEntry then
      let n ← nodeUnless [.blockEntry, .key, .value, .blockEnd] .block fuel
      return n :: (← entriesHere fuel)
    else return []

def blockEntries : Nat → Parsing (List (Nat × Nat))
  | 0 => malformed
  | fuel + 1 => do
    if ← skipIf .key then
      let k ← nodeUnless [.key, .value, .blockEnd] .blockOrEntries fuel
      let v ← if ← skipIf .value then nodeUnless [.key, .value, .blockEnd] .blockOrEntries fuel
        else empty
      return (k, v) :: (← blockEntries fuel)
    else if ← skipIf .blockEnd then return []
    else malformed

def flowItems (first : Bool) : Nat → Parsing (List Nat)
  | 0 => malformed
  | fuel + 1 => do
    if ← skipIf .flowSequenceEnd then return []
    unless first do
      unless ← skipIf .flowEntry do malformed
    if ← skipIf .key then
      let entry ← within do
        let k ← nodeUnless [.value, .flowEntry, .flowSequenceEnd] .flow fuel
        let v ← if ← skipIf .value then nodeUnless [.flowEntry, .flowSequenceEnd] .flow fuel else empty
        return (k, v)
      let id ← add (.mapping .map [entry])
      return id :: (← flowItems false fuel)
    else if ← skipIf .flowSequenceEnd then return []
    else
      let n ← node .flow fuel
      return n :: (← flowItems false fuel)

def flowEntries (first : Bool) : Nat → Parsing (List (Nat × Nat))
  | 0 => malformed
  | fuel + 1 => do
    if ← skipIf .flowMappingEnd then return []
    unless first do
      unless ← skipIf .flowEntry do malformed
    if ← skipIf .key then
      let k ← nodeUnless [.value, .flowEntry, .flowMappingEnd] .flow fuel
      let v ← if ← skipIf .value then nodeUnless [.flowEntry, .flowMappingEnd] .flow fuel else empty
      return (k, v) :: (← flowEntries false fuel)
    else if ← skipIf .flowMappingEnd then return []
    else
      let k ← node .flow fuel
      let v ← empty
      return (k, v) :: (← flowEntries false fuel)

end

/-- The handles that every document knows. -/
def standardHandles : List (String × String) := [("!", "!"), ("!!", Kind.standard)]

/-- The directives before a document; a version other than the first, and what is said twice, is refused. -/
def directives : Nat → Bool → List (String × String) → Parsing (List (String × String))
  | 0, _, _ => malformed
  | fuel + 1, versioned, handles => do
    match ← peek with
    | .directive "YAML" arguments =>
      skip
      if versioned || arguments.head?.map (fun a ↦ Numeral.natOf a.toList) != some 1 then malformed
      directives fuel true handles
    | .directive "TAG" [h, text] =>
      skip
      if (handles.lookup h).isSome then malformed
      directives fuel versioned ((h, text) :: handles)
    | .directive _ _ =>
      skip
      directives fuel versioned handles
    | _ => return handles ++ standardHandles

def skipEnds : Nat → Parsing Unit
  | 0 => return
  | fuel + 1 => do
    if ← skipIf .documentEnd then skipEnds fuel

/-- One document and nothing behind it; none for a text without a document. -/
def single (fuel : Nat) : Parsing (Option Nat) := do
  let t ← peek
  let isMark := match t with
    | .directive _ _ | .documentStart => true
    | _ => false
  if t == .streamEnd then return none
  let stops : List Token := [.documentStart, .documentEnd, .streamEnd]
  let body : Parsing Nat := do
    match ← peek with
    | .directive _ _ => empty
    | _ => nodeUnless stops .block fuel
  let n ← if isMark then
      let handles ← directives fuel false []
      if !(← skipIf .documentStart) then malformed
      modify fun p ↦ { p with handles := handles }
      body
    else
      modify fun p ↦ { p with handles := standardHandles }
      node .block fuel
  skipEnds fuel
  if (← peek) != .streamEnd then malformed
  return some n

/-- The document that a text holds, if it holds one. -/
def read (text : String) : Except Fault (Option Document) := do
  let tokens := tokensOf text
  let (root, p) ← (single (4 * tokens.length + 8)).run { tokens := tokens }
  return root.map fun id ↦ ⟨p.nodes, id⟩

end Document

end Statechart.Yaml
