import Statechart.CommandLine.Session

/-!
# Showing the configuration

The configuration as a flat table of dotted keys: the machines, the options of each section, and the settings.
-/

set_option autoImplicit false
set_option relaxedAutoImplicit false

namespace Statechart.CommandLine.Settings

variable {σ : Type}

def dotted (front : String) (fields : List (String × Value)) : List (String × Value) :=
  fields.map fun (name, v) ↦ (front ++ "." ++ name, v)

/-- The settings by name; only a table has them. -/
def settingsOf : Value → Outcome (List (String × Value))
  | .table es => es.mapM fun (k, v) ↦ do return (← k.shown?, v)
  | _ => .error (.plain .missingAttribute)

/-- The keys of a configuration with their values. Of equal keys the last value stands at the first place. -/
def flatten (c : Config) : Outcome Entries := do
  let settings ← settingsOf c.settings
  let fields := ("machines", .list c.machines) :: dotted "logging" c.logging.fields
    ++ dotted "newsletter" c.newsletter.fields ++ dotted "settings" settings
  return Entries.ofList (fields.map fun (name, v) ↦ (.text name, v))

def table (flat : Entries) : Outcome Display := do
  return .table "hexchart configuration" ["Key", "Value"]
    (← flat.mapM fun (k, v) ↦ do return [k.shown, ← v.shown?])

/-- Only failures about the form of a configuration are reported in a line. -/
def loaded : Outcome Reading → Act σ Reading
  | .error (.configuration component reason) =>
    Act.complain ("[red]✗ Configuration error:[/red] "
      ++ (Failure.configuration component reason).message?.getD "")
  | o => Act.ofOutcome o

def run (path : Option Path) (key : Option String) : Act σ Unit := do
  Act.work Project.forget
  let r ← loaded (← Act.attempt (Project.load path))
  let flat ← Act.ofOutcome (flatten r.config)
  match key with
  | none | some "" => Act.display (← Act.ofOutcome (table flat))
  | some key =>
    match Entries.get? flat key with
    | none => Act.complain ("[yellow]<not set>[/yellow] " ++ key)
    | some v => Act.print (← Act.ofOutcome v.shown?)

end Statechart.CommandLine.Settings
