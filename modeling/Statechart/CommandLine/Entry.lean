import Statechart.CommandLine.Arguments
import Statechart.CommandLine.Run
import Statechart.CommandLine.Settings
import Statechart.CommandLine.Validate
import Statechart.Project.Logging

/-!
# The command line

Global options come before the name of a command, and the command's own arguments after it. The name is looked up
first; then logging is set up, from the global options or from the project, and only then are the arguments of the
command read. A project whose configuration is broken is reported and does not keep a command from running.
-/

set_option autoImplicit false
set_option relaxedAutoImplicit false

namespace Statechart.CommandLine

variable {σ : Type}

def helpOption : OptionSpec := ⟨["--help"], false⟩

/-- Reads arguments; a request for help ends the command well, once the arguments could be read. -/
def readArguments (specs : List OptionSpec) (mixed : Bool) (args : List String) : Act σ Arguments := do
  match Arguments.parse (helpOption :: specs) mixed args with
  | none => Act.misuse
  | some a => if a.has "--help" then Act.halt (.exit 0) else return a

/-! ### Commands -/

/-- A text that can name a directory only. -/
def namesDirectory (text : String) : Bool := text.endsWith "/" || text.endsWith "/."

/-- The file that the operands name, which has to be there; there is at most one. -/
def fileOperand (operands : List String) : Act σ (Option Path) := do
  match operands with
  | [] => return none
  | text :: more =>
    let p := (← get).project
    match p.files.find p.directory (Path.ofText text) with
    | .file _ =>
      if namesDirectory text || !more.isEmpty then Act.misuse
      return some (Path.ofText text)
    | .unnameable => Act.fail .badValue
    | _ => Act.misuse

def validate (args : List String) : Act σ Unit := do
  let a ← readArguments [⟨["--states", "-s"], false⟩] true args
  Validate.run (← fileOperand a.operands) (a.has "--states")

def run (args : List String) : Act σ Unit := do
  let a ← readArguments [⟨["--event", "-e"], true⟩] true args
  Run.run (← fileOperand a.operands) (a.values "--event")

/-- An optional path; no file has a name with a null character. -/
def pathOption : Option String → Act σ (Option Path)
  | none => return none
  | some text =>
    if text.toList.contains '\x00' then Act.fail .badValue else return some (Path.ofText text)

def showConfig (args : List String) : Act σ Unit := do
  let a ← readArguments [⟨["--path", "-p"], true⟩, ⟨["--key", "-k"], true⟩] true args
  let path ← pathOption (a.value? "--path")
  if !a.operands.isEmpty then Act.misuse
  Settings.run path (a.value? "--key")

/-! ### Groups of commands -/

/-- A command by its name. -/
abbrev Commands (σ : Type) := List (String × (List String → Act σ Unit))

/-- The command that operands begin with, and its arguments. What looks like an option is read as one once more,
since it may ask for help. -/
def resolve (specs : List OptionSpec) (commands : Commands σ) (operands : List String) :
    Act σ ((List String → Act σ Unit) × List String) := do
  match operands with
  | [] => Act.misuse
  | name :: args =>
    match commands.lookup name with
    | some c => return (c, args)
    | none =>
      if name.startsWith "-" then
        let _ ← readArguments specs false operands
      Act.misuse

def config (args : List String) : Act σ Unit := do
  if args.isEmpty then Act.misuse
  let a ← readArguments [] false args
  let (command, args) ← resolve [] [("show", showConfig)] a.operands
  command args

def commands : Commands σ := [("validate", validate), ("run", run), ("config", config)]

/-! ### Logging and the whole command line -/

/-- Sets logging up as the project says, if its configuration can be read. -/
def applyProjectLogging : Act σ Unit := do
  match ← Act.attempt (Project.load none) with
  | .ok r => Act.work (Logging.configure r.config.logging false)
  | .error f =>
    if !f.isOwn then Act.fail f
    Act.print ("[yellow]⚠ Ignoring project configuration:[/yellow] " ++ f.message?.getD "")

def globalOptions : List OptionSpec :=
  [⟨["--log-level"], true⟩, ⟨["--log-format"], true⟩, ⟨["--version", "-v"], false⟩]

/-- The settings that global options give. -/
def requestedLogging (level : String) (format : Option String) : LoggingConfig :=
  { level := .text (Text.upper level), format := .text (Text.lower (format.getD "structured")) }

def applyLogging (a : Arguments) : Act σ Unit := do
  match a.value? "--log-level" with
  | some level => Act.work (Logging.configure (requestedLogging level (a.value? "--log-format")) true)
  | none => unless a.has "--version" do applyProjectLogging

def versionText : String := "[bold blue]hexchart[/bold blue] version [green]0.1.0[/green]"

/-- Does what the arguments ask for. -/
def interpret (args : List String) : Act σ Unit := do
  if args.isEmpty then Act.misuse
  let a ← readArguments globalOptions false args
  let command ← if a.operands.isEmpty then pure none else some <$> resolve globalOptions commands a.operands
  applyLogging a
  if a.has "--version" then
    Act.print versionText
    Act.halt (.exit 0)
  match command with
  | some (command, args) => command args
  | none => Act.print ""

/-- How a command line ended: with an exit code, or with a failure. An interrupt is an exit. -/
def ending : Except Halt Unit → Except Failure Nat
  | .ok () => .ok 0
  | .error (.exit code) => .ok code
  | .error (.failure (.fault .interrupt _)) => .ok 130
  | .error (.failure f) => .error f

/-- The exit code of a program: wrong use has a code of its own, other failures have none. -/
def exitCode? : Except Failure Nat → Option Nat
  | .ok code => some code
  | .error (.usage _) => some 2
  | .error _ => none

/-- Plays a command line on a session. -/
def play (args : List String) (s : Session σ) : Except Failure Nat × Session σ :=
  let (result, s) := StateT.run (ExceptT.run (interpret args)) s
  (ending result, { s with shown := s.shown.reverse })

end Statechart.CommandLine
