import Statechart.Config.Section
import Statechart.Files.Tree
import Statechart.Script

/-!
# Projects

The surroundings in which configurations are found and lines are logged: files, a current directory and variables,
with what was read so far and how logging is set up. Work on a project can fail; what it did before stays done.
-/

set_option autoImplicit false
set_option relaxedAutoImplicit false

namespace Statechart

/-- A configuration that was read; each reading has a number of its own. -/
structure Reading where
  number : Nat
  config : Config
deriving Repr, Inhabited

/-- A line that was logged. -/
structure LogRecord where
  level : String
  message : String
  module : String
deriving DecidableEq, Repr, Inhabited

/-- How logged lines are written to the error stream. -/
inductive LogFormat where
  | console
  | json
  | structured
  | rich
deriving DecidableEq, Repr, Inhabited

/-- Where a handler writes: the error stream, in a format and with or without the time, or a file. -/
inductive LogTarget where
  | stream (format : LogFormat) (stamped : Bool)
  | file (place : List String)
deriving DecidableEq, Repr

/-- A handler writes records from a level on. -/
structure LogHandler where
  threshold : Int
  target : LogTarget
deriving DecidableEq, Repr

/-- What the error stream shows: a line of text, perhaps behind the time, or a record. -/
inductive LogLine where
  | text (stamped : Bool) (line : String)
  | record (r : LogRecord)
deriving DecidableEq, Repr

/-- How logging is set up. -/
structure LogState where
  /-- The settings of the last setup that succeeded. -/
  settings : Option LoggingConfig := none
  handlers : List LogHandler := []
  /-- Names whose loggers were asked for. -/
  names : List String := []
  /-- Records in files. -/
  written : List (List String × List LogRecord) := []
  lines : List LogLine := []
deriving Repr, Inhabited

structure Project where
  files : Files := {}
  directory : Path := ⟨"/", []⟩
  environment : Environment := []
  /-- Readings by the text of an absolute path, the one used last at the end. -/
  cache : List (String × Reading) := []
  /-- The number of the next reading. -/
  readings : Nat := 0
  logging : LogState := {}
  journal : List Entry := []

/-- Work on a project. -/
abbrev Work := ExceptT Failure (StateM Project)

namespace Work

def ofOutcome {α : Type} (o : Outcome α) : Work α := ExceptT.mk (pure o)

def note (e : Entry) : Work Unit := modify fun p ↦ { p with journal := e :: p.journal }

/-- Runs the work and gives its outcome and the project after it. -/
def on {α : Type} (w : Work α) (p : Project) : Outcome α × Project := StateT.run (ExceptT.run w) p

end Work

end Statechart
