import Statechart.Failure
import Statechart.Number.Numeral
import Statechart.Value.Arithmetic
import Statechart.Value.Table

/-!
# Configurations

What a project can set: the machines it has, how lines are logged, where signups are sent, and settings of its own.
Values of the logging section stand as they were given; they are judged when logging is set up.
-/

set_option autoImplicit false
set_option relaxedAutoImplicit false

namespace Statechart

structure LoggingConfig where
  level : Value := .text "INFO"
  format : Value := .text "structured"
  outputFile : Value := .null
  useColor : Value := .bool true
  includeTimestamp : Value := .bool true
deriving Repr, Inhabited

/-- Where signups are sent, and how many seconds a request may take. -/
structure NewsletterConfig where
  url : Value := .text
    "https://my-json-server.typicode.com/chancestrickland/state-machine-from-scratch/posts/1"
  timeout : Value := .float (Double.ofDecimal false 10 0)
deriving Repr, Inhabited

structure Config where
  machines : List Value := []
  logging : LoggingConfig := {}
  newsletter : NewsletterConfig := {}
  settings : Value := .table []
deriving Repr, Inhabited

namespace LoggingConfig

/-- The options by name, in order. -/
def fields (c : LoggingConfig) : List (String × Value) :=
  [("level", c.level), ("format", c.format), ("output_file", c.outputFile), ("use_color", c.useColor),
    ("include_timestamp", c.includeTimestamp)]

end LoggingConfig

namespace NewsletterConfig

def fields (c : NewsletterConfig) : List (String × Value) := [("url", c.url), ("timeout", c.timeout)]

/-- A value that is zero or below; only numbers can be compared with zero. -/
def isAtMostZero (v : Value) : Outcome Bool := do
  return (← v.before (.int 0)) || v.same (.int 0)

/-- The url must not be empty, and the timeout has to be positive. -/
def check (c : NewsletterConfig) : Outcome NewsletterConfig := do
  if !c.url.isTruthy then throw (.validation "newsletter.url" "cannot be empty" .null)
  if ← isAtMostZero c.timeout then
    throw (.refusing "newsletter.timeout" "must be positive" c.timeout)
  return c

/-- The number that a value stands for: a number itself, or one written as a text. -/
def seconds (v : Value) : Outcome Double :=
  let written (s : String) : Outcome Double :=
    match Numeral.double? s with
    | some d => .ok d
    | none => .error .badValue
  match v with
  | .float d => .ok d
  | .text s | .symbol _ s => written s
  | .bytes b =>
    if b.all (· < 128) then written (String.ofList (b.map fun n ↦ Char.ofNat n.toNat)) else .error .badValue
  | v =>
    match v.asInt? with
    | some i =>
      match Double.ofInt? i with
      | some d => .ok d
      | none => .error (.plain .overflow)
    | none => .error .wrongType

/-- The configuration that a section gives. -/
def ofSection : Value → Outcome NewsletterConfig
  | .table options => do
    let defaults : NewsletterConfig := {}
    let url := (Entries.get? options "url").getD defaults.url
    let timeout ← seconds ((Entries.get? options "timeout").getD defaults.timeout)
    check ⟨url, .float timeout⟩
  | _ => .error (.plain .missingAttribute)

end NewsletterConfig

end Statechart
