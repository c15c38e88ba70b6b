import Statechart.Files.Tree
import Statechart.Machine.Build
import Statechart.Manifest.Check
import Statechart.Reference
import Statechart.Text.Template
import Statechart.Yaml.Document

/-!
# Machines from manifests

A machine is built from a manifest by resolving its references, state by state: transitions first, the guard of each
before its actions, then entry, then exit. Whatever goes wrong with a reference or a rule for machines is reported
together with the source of the document.
-/

set_option autoImplicit false
set_option relaxedAutoImplicit false

namespace Statechart

variable {σ : Type}

namespace ActionSpec

/-- The effect of a callable. What resolves to null stands for a wrapper that cannot be called with an event. -/
def effectOf (kind : Option String) : Callee σ → Action σ
  | .inert .null => .effect ⟨"_wrap", .function (some "_wrap") fun _ _ ↦ .error .wrongType⟩
  | c => .ofEffect kind c

/-- A line made from a template that may show the context and the event. -/
def writtenLine (template : String) : Action.Message :=
  .computed fun context event ↦
    (Text.Template.render template [("context", context), ("event", event.toValue)]).map .text

def build (scope : Scope σ) (a : ActionSpec) : Outcome (Action σ) :=
  match a.assign, a.assignValues, a.effect with
  | some reference, _, _ => do Action.ofAssignment (← scope.resolve reference)
  | none, some values, _ => .ok (.ofValues values)
  | none, none, some reference => do return effectOf a.kind (← scope.resolve reference)
  | none, none, none =>
    let kind := match a.kind with
      | none | some "" => "log"
      | some k => k
    .ok (.ofLog (writtenLine (a.log.getD "")) .library a.level kind)

end ActionSpec

namespace TransitionSpec

/-- The guard that a reference names; an empty reference names none, and neither does one that resolves to null. -/
def buildGuard (scope : Scope σ) : Option String → Outcome (Option (Callee σ))
  | none | some "" => .ok none
  | some reference => do
    match ← scope.resolve reference with
    | .inert .null => return none
    | c => return some c

def build (scope : Scope σ) (t : TransitionSpec) : Outcome (Transition σ) := do
  let guard ← buildGuard scope t.guard
  let actions ← t.actions.mapM (ActionSpec.build scope)
  return ⟨t.target.map .text, guard, actions⟩

end TransitionSpec

namespace StateSpec

def build (scope : Scope σ) (s : StateSpec) : Outcome (Node σ) := do
  let on ← s.on.mapM fun (event, t) ↦ do return (Value.text event, ← t.build scope)
  let entry ← s.entry.mapM (ActionSpec.build scope)
  let exit ← s.exit.mapM (ActionSpec.build scope)
  return ⟨on, entry, exit⟩

end StateSpec

namespace Manifest

def build (scope : Scope σ) (m : Manifest) : Outcome (Machine σ) := do
  let states ← m.spec.states.mapM fun (state, s) ↦ do return (Value.text state, ← s.build scope)
  Machine.ofParts (.text m.spec.initial) (.entries (states.map fun (state, n) ↦ (state, .built n)))
    (.ofFields m.spec.context) ((m.spec.events.map Value.ofTexts).getD .null) (.text (← m.name))

/-- The source that is named where none is given. -/
def dataSource : String := "<data>"

def textSource : String := "<string>"

/-- Failures of references and of rules for machines are reported with the source of the document. -/
def withSource {α : Type} (source : String) : Outcome α → Outcome α
  | .error f =>
    match f with
    | .unresolved _ _ | .validation _ _ _ => .error (.notLoaded source (f.message?.getD ""))
    | f => .error f
  | .ok a => .ok a

/-- The machine that a document describes. -/
def loadValue (scope : Scope σ) (source : String) (v : Value) : Outcome (Machine σ) :=
  match v.opened with
  | .table _ =>
    match read v with
    | .error problems => .error (.badManifest source problems)
    | .ok m => withSource source (m.build scope)
  | v => .error (.notLoaded source ("expected a mapping, got " ++ v.kindName))

/-- The machine that the text of a document describes. -/
def loadText (scope : Scope σ) (source text : String) : Outcome (Machine σ) :=
  match Yaml.load text with
  | .ok v => loadValue scope source v
  | .error (.fault .badYaml _) => .error (.notLoaded source "invalid YAML")
  | .error f => .error f

/-- The machine that a file describes. -/
def loadFile (scope : Scope σ) (files : Files) (here path : Path) : Outcome (Machine σ) :=
  match files.readText here path with
  | .ok text => loadText scope path.text text
  | .error (.fault kind text) =>
    match Files.faultText? path.text kind with
    | some reason => .error (.notLoaded path.text reason)
    | none => .error (.fault kind text)
  | .error f => .error f

/-- The record of a machine that was loaded. -/
def loadedRecord (source : String) (m : Machine σ) : Entry :=
  .record "hexchart.compiler.machine_loader" "DEBUG" ("Loaded machine " ++ m.name.shown ++ " from " ++ source
    ++ " (" ++ toString m.states.length ++ " states)")

end Manifest

end Statechart
