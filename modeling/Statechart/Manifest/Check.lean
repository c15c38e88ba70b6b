import Statechart.Failure
import Statechart.Manifest.Basic

/-!
# Reading manifests

A document is read part by part. All its problems are found at once and listed in the order of the parts: first those
of the fields that a part may have, then fields that it may not have. An action is asked for its kind only when its
fields are right.
-/

set_option autoImplicit false
set_option relaxedAutoImplicit false

namespace Statechart

/-- What was read, or the problems found instead. -/
abbrev Checked (α : Type) := Except (List Problem) α

namespace Checked

variable {α β : Type}

/-- Both, or the problems of both. -/
def both (a : Checked α) (b : Checked β) : Checked (α × β) :=
  match a, b with
  | .ok a, .ok b => .ok (a, b)
  | .ok _, .error qs => .error qs
  | .error ps, .ok _ => .error ps
  | .error ps, .error qs => .error (ps ++ qs)

def problem (kind : ProblemKind) (text : String) : Checked α := .error [⟨[], kind, text⟩]

/-- What was read at a place. -/
def within (place : Place) (a : Checked α) : Checked α :=
  a.mapError fun ps ↦ ps.map fun p ↦ { p with location := place :: p.location }

/-- All of a list, or all problems. -/
def all : List (Checked α) → Checked (List α)
  | [] => .ok []
  | a :: rest => (both a (all rest)).map fun (a, as) ↦ a :: as

end Checked

/-- How a key that is no text is named. -/
def keyName (key : Value) : String :=
  if key.isWritable then key.literal else "<unprintable " ++ key.kindName ++ " object>"

/-- The place that a key stands for: integers of 64 bits and truth values are indices. -/
def Place.ofKey (key : Value) : Place :=
  match key with
  | .text s | .symbol _ s => .key s
  | .bool b => .index (if b then 1 else 0)
  | .int i => if -(Int.pow 2 63) ≤ i && i < Int.pow 2 63 then .index i else .key (keyName key)
  | v => .key (keyName v)

namespace Manifest

/-- The text of a value that has to be one; bytes stand for the text that they encode. -/
def readText : Value → Checked String
  | .text s | .symbol _ s => .ok s
  | .bytes b =>
    match String.fromUTF8? ⟨b.toArray⟩ with
    | some s => .ok s
    | none => .problem .stringUnicode
        "Input should be a valid string, unable to parse raw data as a unicode string"
  | _ => .problem .stringType "Input should be a valid string"

def readOptional {α : Type} (read : Value → Checked α) : Value → Checked (Option α)
  | .null => .ok none
  | v => (read v).map some

/-- The items of a list. -/
def readList {α : Type} (read : Value → Checked α) (v : Value) : Checked (List α) :=
  match v.opened with
  | .list xs | .tuple xs | .set xs => .all (xs.zipIdx.map fun (x, i) ↦ .within (.index i) (read x))
  | _ => .problem .listType "Input should be a valid list"

/-- Entries with text keys; of two with one key the later stands, in the place of the first. -/
def merged {α : Type} (entries : List (String × α)) : List (String × α) :=
  (Entries.ofList (entries.map fun (k, v) ↦ (Value.text k, v))).map fun (k, v) ↦ ((k.asText?).getD "", v)

/-- A table with text keys. -/
def readTable {α : Type} (read : Value → Checked α) (v : Value) : Checked (List (String × α)) :=
  match v.opened with
  | .table entries =>
    (Checked.all (entries.map fun (k, v) ↦
      .within (.ofKey k) (.both (.within (.key "[key]") (readText k)) (read v)))).map merged
  | _ => .problem .dictType "Input should be a valid dictionary"

/-- The entries of a part of a document. -/
def readPart (part : String) (v : Value) : Checked Entries :=
  match v.opened with
  | .table entries => .ok entries
  | _ => .problem .modelType ("Input should be a valid dictionary or instance of " ++ part)

def required {α : Type} (entries : Entries) (name : String) (read : Value → Checked α) : Checked α :=
  .within (.key name) (match Entries.get? entries name with
    | some v => read v
    | none => .problem .missing "Field required")

def optional {α : Type} (entries : Entries) (name : String) (default : α) (read : Value → Checked α) : Checked α :=
  match Entries.get? entries name with
  | some v => .within (.key name) (read v)
  | none => .ok default

/-- A part of a document has text keys and no other fields than the known ones. -/
def noOthers (known : List String) (entries : Entries) : Checked Unit :=
  (Checked.all (entries.map fun (k, _) ↦
    match k.asText? with
    | some name =>
      if known.contains name then .ok ()
      else .within (.key name) (.problem .extraForbidden "Extra inputs are not permitted")
    | none => .within (.ofKey k) (.problem .invalidKey "Keys should be strings"))).map fun _ ↦ ()

/-- An action has exactly one kind. -/
def checkKind (a : ActionSpec) : Checked ActionSpec :=
  if a.given.length == 1 then .ok a
  else .problem .valueError
    ("Value error, An action needs exactly one of assign/assign_values/effect/log, got "
      ++ (Value.ofTexts a.given).literal)

def readAction (v : Value) : Checked ActionSpec := do
  let es ← readPart "ActionSpec" v
  let (assign, values, effect, log, level, kind, _) ←
    .both (optional es "assign" none (readOptional readText))
      <| .both (optional es "assign_values" none (readOptional (readTable .ok)))
      <| .both (optional es "effect" none (readOptional readText))
      <| .both (optional es "log" none (readOptional readText))
      <| .both (optional es "level" "INFO" readText)
      <| .both (optional es "type" none (readOptional readText))
      <| noOthers ["assign", "assign_values", "effect", "log", "level", "type"] es
  checkKind ⟨assign, values, effect, log, level, kind⟩

def readTransition (v : Value) : Checked TransitionSpec := do
  let es ← readPart "TransitionSpec" v
  let (target, guard, actions, _) ←
    .both (optional es "target" none (readOptional readText))
      <| .both (optional es "cond" none (readOptional readText))
      <| .both (optional es "actions" [] (readList readAction))
      <| noOthers ["target", "cond", "actions"] es
  return ⟨target, guard, actions⟩

/-- A text stands for a transition to the state that it names, and an empty value for one that has no parts. -/
def expandShorthand (v : Value) : Value :=
  match v.asText? with
  | some _ => .ofFields [("target", v)]
  | none => if v.isTruthy then v else .table []

def expandTable (v : Value) : Value :=
  match v.opened with
  | .table entries => .table (entries.map fun (event, v) ↦ (event, expandShorthand v))
  | v => v

/-- Transitions may stand under a key that is the truth value true, as which an unquoted `on` may be read. -/
def restoreOn (entries : Entries) : Entries :=
  let isYes : Value → Bool
    | .bool b => b
    | _ => false
  if entries.any fun e ↦ isYes e.1 then
    Entries.ofList (entries.map fun (k, v) ↦ (if isYes k then .text "on" else k, v))
  else entries

def readState (v : Value) : Checked StateSpec := do
  let es := restoreOn (← readPart "StateSpec" v)
  let (entry, exit, on, _) ←
    .both (optional es "entry" [] (readList readAction))
      <| .both (optional es "exit" [] (readList readAction))
      <| .both (optional es "on" [] fun v ↦ readTable readTransition (expandTable v))
      <| noOthers ["entry", "exit", "on"] es
  return ⟨entry, exit, on⟩

def readMachine (v : Value) : Checked MachineSpec := do
  let es ← readPart "MachineSpec" v
  let (initial, context, events, states, _) ←
    .both (required es "initial" readText)
      <| .both (optional es "context" [] (readTable .ok))
      <| .both (optional es "events" none (readOptional (readList readText)))
      <| .both (required es "states" (readTable readState))
      <| noOthers ["initial", "context", "events", "states"] es
  return ⟨initial, context, events, states⟩

def readKind : Value → Checked Unit
  | .text s | .symbol _ s => if s == documentKind then .ok () else bad
  | _ => bad
where
  bad : Checked Unit := .problem .literalError "Input should be 'Machine'"

/-- The field that holds the version, by its own name or by a second one if its own is missing. -/
def versionField (entries : Entries) : String :=
  if (Entries.get? entries "apiVersion").isSome then "apiVersion" else "api_version"

/-- Reads a document that describes a machine. -/
def read (v : Value) : Checked Manifest := do
  let es ← readPart "MachineManifest" v
  let versionName := versionField es
  let version : Checked String :=
    match Entries.get? es versionName with
    | some v => .within (.key versionName) (readText v)
    | none => .ok "hexchart/v1"
  let (version, _, metadata, spec, _) ←
    .both version
      <| .both (required es "kind" readKind)
      <| .both (optional es "metadata" [] (readTable .ok))
      <| .both (required es "spec" readMachine)
      <| noOthers [versionName, "kind", "metadata", "spec"] es
  return ⟨version, metadata, spec⟩

end Manifest

end Statechart
