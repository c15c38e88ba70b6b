import Statechart.Config.Basic
import Statechart.Config.Placeholder
import Statechart.Machine.Build
import Statechart.Text.Blank
import Statechart.Text.Letters

/-!
# Sections of a configuration

Each option of the logging section can be overridden by a variable (`Override`), whose text is converted to a value of
the option. What the other sections hold is taken as it stands.
-/

set_option autoImplicit false
set_option relaxedAutoImplicit false

namespace Statechart

namespace Flag

def yes : List String := ["true", "1", "yes", "on", "enabled"]

def no : List String := ["false", "0", "no", "off", "disabled"]

/-- What is said about a text that is no flag. -/
def refusal (s : String) : String :=
  "Invalid boolean value: " ++ Text.quoted s ++ ". Expected one of: "
    ++ textsLiteral (Text.sorted (yes ++ no))

/-- A flag written as a word; case and blanks around it do not count. -/
def parse (s : String) : Except String Bool :=
  let word := Text.lower (Text.trim s)
  if yes.contains word then .ok true
  else if no.contains word then .ok false
  else .error (refusal s)

end Flag

/-- A variable that decides an option of the logging section. -/
structure Override where
  source : String
  option : String
  convert : String → Except String Value

namespace Override

def level : Override := ⟨"HEXCHART_LOG_LEVEL", "level", fun s ↦ .ok (.text (Text.upper s))⟩

def format : Override := ⟨"HEXCHART_LOG_FORMAT", "format", fun s ↦ .ok (.text (Text.lower s))⟩

def outputFile : Override := ⟨"HEXCHART_LOG_FILE", "output_file", fun s ↦ .ok (.text s)⟩

def flag (s : String) : Except String Value := (Flag.parse s).map .bool

def useColor : Override := ⟨"HEXCHART_LOG_COLOR", "use_color", flag⟩

def includeTimestamp : Override := ⟨"HEXCHART_LOG_TIMESTAMP", "include_timestamp", flag⟩

def all : List Override := [level, format, outputFile, useColor, includeTimestamp]

/-- The text of the variable, if it has one that is not empty. -/
def given? (o : Override) (env : Environment) : Option String :=
  (env.lookup o.source).bind fun s ↦ if s == "" then none else some s

end Override

namespace LoggingConfig

/-- The options that a section gives, each under its name; a default stands for one that it leaves out. -/
def optionsOf (given : Entries) : Entries :=
  (fields {}).map fun (name, default) ↦ (.text name, (Entries.get? given name).getD default)

/-- The configuration with these options. -/
def ofOptions (options : Entries) : LoggingConfig :=
  let option (name : String) : Value := (Entries.get? options name).getD .null
  { level := option "level"
    format := option "format"
    outputFile := option "output_file"
    useColor := option "use_color"
    includeTimestamp := option "include_timestamp" }

end LoggingConfig

namespace Value

/-- The number of items of a value that has items. -/
def size : Value → Outcome Nat
  | .list xs | .tuple xs | .set xs => .ok xs.length
  | .table es => .ok es.length
  | .text s | .symbol _ s => .ok s.length
  | .bytes b => .ok b.length
  | _ => .error .wrongType

end Value

namespace Config

/-- A part of a section under its name; only a table has such parts. -/
def part? (options : Value) (name : String) : Outcome (Option Value) :=
  match options with
  | .table es => .ok (Entries.get? es name)
  | _ => .error (.plain .missingAttribute)

/-- The entries of the logging section, none if it is missing. -/
def loggingOptions (options : Value) : Outcome Entries := do
  match ← part? options "logging" with
  | none => return []
  | some (.table es) => return es
  | some _ => throw (.plain .missingAttribute)

/-- The rest of a configuration, around its logging section. -/
def ofParts (logging : LoggingConfig) (options : Value) : Outcome Config := do
  let machines ← match ← part? options "machines" with
    | none => pure []
    | some v => v.items
  let newsletter ← match ← part? options "newsletter" with
    | none => pure {}
    | some v => NewsletterConfig.ofSection v
  let settings := (← part? options "settings").getD (.table [])
  return ⟨machines, logging, newsletter, settings⟩

/-- The line about a configuration that was read. -/
def summary (c : Config) : Outcome String := do
  return "Parsed configuration with " ++ toString c.machines.length ++ " machines and "
    ++ toString (← c.settings.size) ++ " settings"

end Config

end Statechart
