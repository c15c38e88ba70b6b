import Statechart.CommandLine.Session
import Statechart.Manifest.Build

/-!
# Machines of a command

The machine files that a command is about: the one that was given, or those of the project's configuration, as they
stand there.
-/

set_option autoImplicit false
set_option relaxedAutoImplicit false

namespace Statechart.CommandLine

variable {σ : Type}

/-- The paths that a configuration lists; only texts are paths. -/
def configuredPaths (machines : List Value) : Outcome (List Path) :=
  machines.mapM fun v ↦
    match v.asText? with
    | some text => .ok (Path.ofText text)
    | none => .error .wrongType

def machineFiles : Option Path → Act σ (List Path)
  | some given => return [given]
  | none => do
    let r ← Act.reporting "[red]✗ Configuration error:[/red]" (← Act.attempt (Project.load none))
    if r.config.machines.isEmpty then
      Act.complain ("[red]✗ No machine file given[/red] and no [bold]machines[/bold] "
        ++ "listed in the project configuration")
    Act.ofOutcome (configuredPaths r.config.machines)

/-- The machine that a file describes. -/
def loadMachine (path : Path) : Act σ (Outcome (Machine σ)) := do
  let s ← get
  match Manifest.loadFile s.scope s.project.files s.project.directory path with
  | .ok m =>
    Act.work (Work.note (Manifest.loadedRecord path.text m))
    return .ok m
  | .error f => return .error f

end Statechart.CommandLine
