import Statechart.Project.Basic
import Statechart.Text.Lines
import Statechart.Text.Template

/-!
# Logging

Logging is set up by settings: one handler for the error stream, and one for a file if a file is named. Setting it up
again with the settings that are in force changes nothing; otherwise the handlers that were set up before are dropped
first. Settings are in force only when all handlers were made.
-/

set_option autoImplicit false
set_option relaxedAutoImplicit false

namespace Statechart

namespace LogFormat

/-- Any other format is the plain one; what cannot be a key cannot name a format. -/
def ofValue (v : Value) : Outcome LogFormat :=
  if !v.isKey then .error .wrongType
  else .ok (match v.asText? with
    | some "json" => .json
    | some "structured" => .structured
    | some "rich" => .rich
    | _ => .console)

end LogFormat

namespace Logging

/-- Levels by name, with their numbers. -/
def levels : List (String × Int) :=
  [("TRACE", 5), ("DEBUG", 10), ("INFO", 20), ("SUCCESS", 25), ("WARNING", 30), ("ERROR", 40), ("CRITICAL", 50)]

/-- The number of a level, which is given by name or by number. -/
def levelNumber (v : Value) : Outcome Int :=
  match v.asText?, v.asInt? with
  | some name, _ =>
    match levels.lookup name with
    | some n => .ok n
    | none => .error .badValue
  | none, some i => if i < 0 then .error .badValue else .ok i
  | none, none => .error .wrongType

/-- The name under which records of a level are written. -/
def levelName (v : Value) : String :=
  match v.asText? with
  | some name => name
  | none => "Level " ++ toString ((v.asInt?).getD 0)

/-- Whether two settings are the same. -/
def sameSettings (a b : LoggingConfig) : Bool :=
  (a.fields.zip b.fields).all fun (x, y) ↦ x.2.alike y.2

/-- The names of a path after those that lead back. -/
def place (p : Path) : List String :=
  (p.names.foldl (fun back n ↦ if n == ".." then back.drop 1 else n :: back) []).reverse

/-- Makes a directory of a path whose parent is there. -/
def makeOne (files : Files) (here path : Path) : Outcome Files :=
  match files.find here path with
  | .directory => .ok files
  | .missing => .ok (files.makeDirectory (place (here.below path)))
  | .file _ => .error (.plain .fileExists)
  | .blocked => .error (.plain .notDirectory)
  | .tooLong => .error (.plain .nameTooLong)
  | .unnameable => .error .badValue

/-- Makes a directory and those above it that are missing. -/
def makeDirectories (files : Files) (here path : Path) : Outcome Files :=
  match files.find here path with
  | .missing =>
    ((List.range path.names.length).map fun n ↦ { path with names := path.names.take (n + 1) }).foldlM
      (fun files p ↦ makeOne files here p) files
  | _ => makeOne files here path

/-- Opens a file to be written to at its end. -/
def openFile (files : Files) (here path : Path) : Outcome (Files × List String) :=
  let place := place (here.below path)
  match files.find here path with
  | .file _ => .ok (files, place)
  | .missing => .ok (files.write place [], place)
  | .directory => .error (.plain .isDirectory)
  | .blocked => .error (.plain .notDirectory)
  | .tooLong => .error (.plain .nameTooLong)
  | .unnameable => .error .badValue

/-- The path of a log file, in which a field may stand for the time. -/
def timed (path : String) : Outcome String :=
  match Text.Template.render path [("time", .text "<TIME>")] with
  | .error (.fault .outOfRange _) => .error .badValue
  | o => o

def setState (f : LogState → LogState) : Work Unit := modify fun p ↦ { p with logging := f p.logging }

def addHandler (h : LogHandler) : Work Unit := setState fun s ↦ { s with handlers := s.handlers ++ [h] }

/-- Adds the handler for the error stream. -/
def addStream (c : LoggingConfig) : Work Unit := do
  let format ← Work.ofOutcome (LogFormat.ofValue c.format)
  let threshold ← Work.ofOutcome (levelNumber c.level)
  addHandler ⟨threshold, .stream format c.includeTimestamp.isTruthy⟩

/-- Adds the handler for a file, whose directory is made. -/
def addFile (c : LoggingConfig) : Work Unit := do
  match c.outputFile.asText? with
  | none => throw .wrongType
  | some text =>
    let path := Path.ofText text
    let p ← get
    let files ← Work.ofOutcome (makeDirectories p.files p.directory { path with names := path.names.dropLast })
    set { p with files := files }
    let actual ← Work.ofOutcome (timed path.text)
    let (files, place) ← Work.ofOutcome (openFile files p.directory (Path.ofText actual))
    set { p with files := files }
    addHandler ⟨← Work.ofOutcome (levelNumber c.level), .file place⟩

/-- The settings as they are remembered: the file by its text. -/
def remembered (c : LoggingConfig) : LoggingConfig :=
  { c with outputFile := if c.outputFile.isTruthy then .text c.outputFile.shown else .null }

/-- Sets logging up. -/
def configure (c : LoggingConfig) (force : Bool) : Work Unit := do
  let settings := remembered c
  if (← get).logging.settings.any (sameSettings settings) && !force then return
  setState fun s ↦ { s with handlers := [] }
  addStream c
  if c.outputFile.isTruthy then addFile c
  setState fun s ↦ { s with settings := some settings }

/-- The settings that variables give where nothing was set up. -/
def initialSettings (env : Environment) : LoggingConfig :=
  { level := .text (Text.upper ((env.lookup Override.level.source).getD "INFO"))
    format := .text (Text.lower ((env.lookup Override.format.source).getD "structured")) }

/-- Asks for the logger of a name; the first sets logging up. -/
def logger (name : String) : Work Unit := do
  let p ← get
  if p.logging.names.contains name then return
  if p.logging.settings.isNone then configure (initialSettings p.environment) false
  setState fun s ↦ { s with names := s.names ++ [name] }

/-- Forgets what was set up, though the handlers stay. -/
def forget : Work Unit := setState fun s ↦ { s with settings := none, names := [] }

/-- Where a line comes from. -/
structure Origin where
  module : String
  function : String
  line : Nat

/-- Text with blanks behind it up to a width. -/
def padded (width : Nat) (s : String) : String := s ++ "".pushn ' ' (width - s.length)

/-- What a handler for the error stream shows of a record. -/
def shown (format : LogFormat) (stamped : Bool) (origin : Origin) (r : LogRecord) : List LogLine :=
  let lines (front : String) : List LogLine :=
    match Text.lines (front ++ r.message ++ "\n") with
    | [] => []
    | first :: rest => .text stamped first :: rest.map (.text false)
  match format with
  | .rich => []
  | .json => [.record r]
  | .console => lines (padded 8 r.level ++ " | " ++ origin.module ++ " | ")
  | .structured =>
    lines ("[" ++ padded 8 r.level ++ "]" ++ origin.module ++ ":" ++ origin.function ++ ":"
      ++ toString origin.line ++ " | ")

/-- The records of files with one more at the end of a file. -/
def append (written : List (List String × List LogRecord)) (place : List String) (r : LogRecord) :
    List (List String × List LogRecord) :=
  (place, (written.lookup place).getD [] ++ [r]) :: written.filter fun w ↦ w.1 != place

def handle (origin : Origin) (r : LogRecord) (s : LogState) (h : LogHandler) : LogState :=
  match h.target with
  | .stream format stamped => { s with lines := s.lines ++ shown format stamped origin r }
  | .file place => { s with written := append s.written place r }

/-- Logs a message. -/
def emit (name : String) (origin : Origin) (level : Value) (message : String) : Work Unit := do
  logger name
  let n ← Work.ofOutcome (levelNumber level)
  let r : LogRecord := ⟨levelName level, message, name⟩
  setState fun s ↦ (s.handlers.filter fun h ↦ h.threshold ≤ n).foldl (handle origin r) s

/-- The records in a log file. -/
def readLog (path : Path) : Work (List LogRecord) := do
  let p ← get
  let _ ← Work.ofOutcome (p.files.read p.directory path)
  return (p.logging.written.lookup (place (p.directory.below path))).getD []

end Logging

end Statechart
