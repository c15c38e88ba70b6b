import Statechart.CommandLine.Machines

/-!
# Checking machine files

Every file is checked, whatever the outcome of those before it; the exit code tells whether all are good.
-/

set_option autoImplicit false
set_option relaxedAutoImplicit false

namespace Statechart.CommandLine.Validate

variable {σ : Type}

/-- A text, or a dash in place of an empty one. -/
def orDash (s : String) : String := if s == "" then "-" else s

def actionsText (actions : List (Action σ)) : String := orDash (", ".intercalate (actions.map (·.kind)))

/-- A transition in a state; without a target it leads back to the state. -/
def transitionText (state event : Value) (t : Transition σ) : String :=
  event.shown ++ " → " ++ (t.target.getD state).shown ++ (if t.guard.isSome then " [dim](guarded)[/dim]" else "")

def stateRow (initial : Value) (state : Value) (n : Node σ) : List String :=
  [state.shown ++ (if state.same initial then " [dim](initial)[/dim]" else ""), actionsText n.entry,
    actionsText n.exit, orDash ("\n".intercalate (n.on.map fun (event, t) ↦ transitionText state event t))]

def statesTable (m : Machine σ) : Display :=
  .table ("Machine: " ++ m.name.shown) ["State", "Entry", "Exit", "Transitions"]
    (m.states.map fun (state, n) ↦ stateRow m.initial state n)

def successText (path : Path) (m : Machine σ) : String :=
  "[green]✓ Validation successful:[/green] " ++ path.text ++ " (machine [bold]" ++ m.name.shown
    ++ "[/bold], " ++ toString m.states.length ++ " states)"

/-- Failures that say that a machine cannot be loaded. -/
def isNotLoaded : Failure → Bool
  | .notLoaded _ _ | .badManifest _ _ => true
  | _ => false

/-- Checks a file; answers whether it is good. -/
def checkFile (showStates : Bool) (path : Path) : Act σ Bool := do
  match ← loadMachine path with
  | .ok m =>
    Act.print (successText path m)
    if showStates then Act.display (statesTable m)
    return true
  | .error f =>
    if !isNotLoaded f then Act.fail f
    Act.print ("[red]✗ Validation failed:[/red] " ++ f.message?.getD "")
    return false

def run (file : Option Path) (showStates : Bool) : Act σ Unit := do
  let results ← (← machineFiles file).mapM (checkFile showStates)
  unless results.all id do Act.halt (.exit 1)

end Statechart.CommandLine.Validate
