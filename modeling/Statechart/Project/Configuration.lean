import Statechart.Project.Basic
import Statechart.Toml.Document
import Statechart.Yaml.Document

/-!
# The configuration of a project

A configuration is read from the file that is named, or from the first that is found: the one that a variable names,
then the project file of the current directory, then the nearest project file above it that has a table of ours. What
was read is kept by its absolute path until it is forgotten or too many others were read since.
-/

set_option autoImplicit false
set_option relaxedAutoImplicit false

namespace Statechart.Project

def part : String := "hexchart.compiler.config_loader"

def remark (level text : String) : Work Unit := Work.note (.record part level text)

/-! ### Finding the file -/

def pathVariable : String := "HEXCHART_CONFIG_PATH"

def projectFile : String := "pyproject.toml"

/-- Whether a path leads to something. -/
def has (path : Path) : Work Bool := do
  let p ← get
  Work.ofOutcome (p.files.has p.directory path)

/-- The table in a project file. -/
def readToml (path : Path) : Work Entries := do
  let p ← get
  let text ← Work.ofOutcome (do Files.decode (← p.files.read p.directory path))
  Work.ofOutcome (Toml.load text)

/-- Whether a value holds a text: as a key, as an item, or as a part. -/
def holds (name : String) : Value → Outcome Bool
  | .table es => .ok (Entries.get? es name).isSome
  | .list xs => .ok (xs.any fun x ↦ x.same (.text name))
  | .text s => .ok ((s.splitOn name).length > 1)
  | _ => .error .wrongType

def hasOurTable (path : Path) : Work Bool := do
  let document ← readToml path
  Work.ofOutcome (holds "hexchart" ((Entries.get? document "tool").getD (.table [])))

/-- The nearest of some directories whose project file has a table of ours. Those behind it are not looked at. -/
def nearest? : List Path → Work (Option Path)
  | [] => return none
  | directory :: rest => do
    let path := directory.child projectFile
    if ← has path then
      if ← hasOurTable path then return some path
    nearest? rest

/-- The file that the variable names, if it is there. -/
def named? : Work (Option Path) := do
  match (← get).environment.lookup pathVariable with
  | none | some "" => return none
  | some text =>
    if ← has (Path.ofText text) then return some (Path.ofText text)
    remark "WARNING" (pathVariable ++ " points to a missing file: " ++ text)
    return none

/-- The first configuration file that is found. -/
def discover? : Work (Option Path) := do
  if let some path ← named? then return some path
  if ← has (Path.ofText projectFile) then return some (Path.ofText projectFile)
  nearest? (← get).directory.ancestors

def nothingFound : String :=
  "No configuration file found. Provide a kind: Config YAML path, set HEXCHART_CONFIG_PATH, or add "
    ++ "[tool.hexchart] to pyproject.toml"

/-- The file that is named, which has to be there, or the first that is found. -/
def locate : Option Path → Work Path
  | some path => do
    if ← has path then return path
    throw (.fault .fileNotFound (some ("Configuration file not found: " ++ path.text)))
  | none => do
    match ← discover? with
    | some path => return path
    | none => throw (.fault .fileNotFound (some nothingFound))

/-! ### Reading it -/

/-- The kind of document that holds a configuration. -/
def documentKind : String := "Config"

/-- The section of a document: it has to be of the right kind. -/
def sectionOf (source : String) (v : Value) : Outcome Value :=
  match v.opened with
  | .table es =>
    let kind := (Entries.get? es "kind").getD .null
    if !kind.same (.text documentKind) then
      do throw (.configuration source
        ("must use 'kind: Config' manifest format, got 'kind: " ++ (← kind.shown?) ++ "'"))
    else
      let spec := (Entries.get? es "spec").getD (.table [])
      match spec.opened with
      | .table _ => .ok spec
      | _ => .error (.configuration source "'spec' must be a mapping")
  | v => .error (.configuration source ("expected a mapping, got " ++ v.kindName))

def yamlSection (path : Path) : Work Value := do
  let p ← get
  Work.ofOutcome (do sectionOf path.name (← Yaml.load (← p.files.readText p.directory path)))

/-- The table of ours in a document; none for a project file that has none. Any other file is one as a whole. -/
def tomlSection (path : Path) : Work (Option Value) := do
  let document ← readToml path
  let ours ← Work.ofOutcome (match Entries.get? document "tool" with
    | none => .ok none
    | some (.table tool) => .ok (Entries.get? tool "hexchart")
    | some _ => .error (.plain .missingAttribute))
  match ours.filter Value.isTruthy with
  | some v => return some v
  | none =>
    if path.name == projectFile then
      remark "WARNING" "pyproject.toml has no [tool.hexchart] table, using defaults"
      return none
    return some (.table document)

/-- Fills the placeholders of a value; no end is found in one that stands within itself. -/
def expand (v : Value) : Work Value := do
  if v.isCyclic then throw (.plain .tooDeep)
  let env := (← get).environment
  (Placeholder.unsetIn env v).forM fun name ↦ remark "DEBUG" ("No environment value for " ++ name)
  return Placeholder.expand env v

/-- Lets a variable decide its option: what it says takes the place of what stands there. A variable that is not set, or
empty, leaves the options as they are, and so does one that cannot be converted, about which a line is written. -/
def override (options : Entries) (o : Override) : Work Entries := do
  match o.given? (← get).environment with
  | none => return options
  | some s =>
    match o.convert s with
    | .error text =>
      remark "WARNING" ("Ignoring " ++ o.source ++ ": " ++ text)
      return options
    | .ok v =>
      remark "DEBUG" ("logging." ++ o.option ++ " taken from " ++ o.source)
      return Entries.insert options (.text o.option) v

/-- The configuration of logging: what the section says, with the variables laid over it one after another. -/
def loggingConfig (given : Entries) : Work LoggingConfig := do
  return .ofOptions (← Override.all.foldlM override (LoggingConfig.optionsOf given))

/-- The configuration that a section gives. -/
def build (options : Value) : Work Config := do
  let logging ← loggingConfig (← Work.ofOutcome (Config.loggingOptions options))
  let c ← Work.ofOutcome (Config.ofParts logging options)
  remark "DEBUG" (← Work.ofOutcome c.summary)
  return c

/-- Reads a configuration from a file. -/
def parse (path : Path) : Work Config := do
  remark "INFO" ("Loading configuration from " ++ path.text)
  let options ← if path.suffix == ".yaml" || path.suffix == ".yml" then
      some <$> yamlSection path
    else tomlSection path
  match options with
  | none => return {}
  | some v => build (← expand v)

/-! ### Readings -/

/-- A new reading of a configuration. -/
def reading (c : Config) : Work Reading := do
  let p ← get
  set { p with readings := p.readings + 1 }
  return ⟨p.readings, c⟩

/-- How many readings are kept. -/
def cacheLimit : Nat := 32

/-- The cache with a reading as the one used last. -/
def keep (cache : List (String × Reading)) (key : String) (r : Reading) : List (String × Reading) :=
  let others := cache.filter fun e ↦ e.1 != key
  others.drop (others.length + 1 - cacheLimit) ++ [(key, r)]

/-- The reading of a file that is kept, or a new one. Failures are not kept. -/
def parseKept (path : Path) : Work Reading := do
  let key := path.text
  let r ← match (← get).cache.lookup key with
    | some r => pure r
    | none => reading (← parse path)
  modify fun p ↦ { p with cache := keep p.cache key r }
  return r

def forget : Work Unit := modify fun p ↦ { p with cache := [] }

/-- The configuration of the file that is named, or of the first that is found. -/
def loadFile (path : Option Path) : Work Reading := do
  let path ← locate path
  parseKept ((← get).directory.below path)

/-- The same, with defaults if there is no such file. -/
def load (path : Option Path) : Work Reading :=
  tryCatch (loadFile path) fun f ↦
    match f with
    | .fault .fileNotFound _ => do
      remark "INFO" "No configuration file found, using defaults"
      reading {}
    | f => throw f

end Statechart.Project
