import Statechart.Project.Configuration
import Statechart.Reference
import Statechart.Service.Step

/-!
# Sessions

What a command works on: a project, where references are looked up, and the memory of scripts. A command shows lines
of markup and tables, and may come to a halt before its end, with an exit code or with a failure.
-/

set_option autoImplicit false
set_option relaxedAutoImplicit false

namespace Statechart.CommandLine

/-- Something that a command shows. -/
inductive Display where
  | line (markup : String)
  | table (title : String) (columns : List String) (rows : List (List String))
deriving DecidableEq, Repr

/-- How a command ends early. -/
inductive Halt where
  | exit (code : Nat)
  | failure (f : Failure)
deriving Repr

structure Session (σ : Type) where
  project : Project
  scope : Scope σ
  memory : σ
  /-- What was shown, the latest first. -/
  shown : List Display := []

/-- What a command does. -/
abbrev Act (σ : Type) := ExceptT Halt (StateM (Session σ))

namespace Act

variable {σ α : Type}

def halt (h : Halt) : Act σ α := throw h

def fail (f : Failure) : Act σ α := throw (.failure f)

/-- Wrong use of the command line, about which nothing more is said. -/
def misuse : Act σ α := fail (.usage none)

def ofOutcome : Outcome α → Act σ α
  | .ok a => return a
  | .error f => fail f

/-- Work on the project of a session, with its outcome. -/
def attempt (w : Work α) : Act σ (Outcome α) := do
  let s ← get
  let (outcome, project) := w.on s.project
  set { s with project := project }
  return outcome

def work (w : Work α) : Act σ α := do ofOutcome (← attempt w)

def display (d : Display) : Act σ Unit := modify fun s ↦ { s with shown := d :: s.shown }

def print (markup : String) : Act σ Unit := display (.line markup)

/-- Shows a line, then ends with the exit code of failures. -/
def complain (markup : String) : Act σ α := do
  print markup
  halt (.exit 1)

/-- Reports failures of the library in a line and ends; other failures end the command as they are. -/
def reporting (front : String) : Outcome α → Act σ α
  | .ok a => return a
  | .error f =>
    if f.isOwn then complain (front ++ " " ++ (f.message?.getD "")) else fail f

end Act

end Statechart.CommandLine
