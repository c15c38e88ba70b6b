import Statechart.Number.Numeral
import Statechart.Number.Shortest
import Statechart.Text.Quoted
import Statechart.Value.Knot

/-!
# The text of a value

`Value.literal` writes a value the way it would be written down: texts quoted, sequences in brackets, records
with the names of their fields. `Value.shown` differs for what is a text or a moment itself, which stands bare.
-/

set_option autoImplicit false
set_option relaxedAutoImplicit false

namespace Statechart

/-- Text between an opening and a closing mark. -/
def enclosed (opening inner closing : String) : String := opening ++ inner ++ closing

namespace Value

/-- Where a class is defined; common classes are defined nowhere in particular. -/
def home? : String → Option String
  | "Event" => some "hexchart.kernel.domain.machine"
  | "CancellationToken" => some "hexchart.kernel.cancellation"
  | "NewsletterContext" | "NewsletterState" | "NewsletterEvent" => some "hexchart.stdlib.newsletter"
  | "date" | "time" | "datetime" | "timedelta" | "timezone" | "tzinfo" => some "datetime"
  | _ => none

/-- The name by which a class goes among its members; that of a class of moments tells where it is defined. -/
def className (name : String) : String :=
  if home? name == some "datetime" then "datetime." ++ name else name

/-- A knot within itself. -/
def ellipsis (inside : Value) : String :=
  match inside with
  | .table _ => "\x7b...\x7d"
  | .tuple _ => "(...)"
  | _ => "[...]"

mutual

/-- The text of a value within the knots of some labels, which are not written again. -/
def literalIn (around : List Nat) (v : Value) : String :=
  match v with
  | .null => "None"
  | .bool b => if b then "True" else "False"
  | .int i => toString i
  | .float d => d.text
  | .text s => Text.quoted s
  | .symbol family name => "<" ++ family ++ "." ++ name ++ ": " ++ Text.quoted name ++ ">"
  | .bytes b => Text.quotedBytes b
  | .list xs => enclosed "[" (", ".intercalate (literals around xs)) "]"
  | .tuple xs =>
    match literals around xs with
    | [one] => enclosed "(" one ",)"
    | many => enclosed "(" (", ".intercalate many) ")"
  | .set xs =>
    match literals around xs with
    | [] => "set()"
    | many => enclosed "\x7b" (", ".intercalate many) "\x7d"
  | .table es => enclosed "\x7b" (", ".intercalate (entryLiterals around es)) "\x7d"
  | .event kind data =>
    "Event(type=" ++ literalIn around kind ++ ", data="
      ++ enclosed "\x7b" (", ".intercalate (entryLiterals around data)) "\x7d" ++ ")"
  | .record name fields => name ++ enclosed "(" (", ".intercalate (fieldLiterals around fields)) ")"
  | .token name => "CancellationToken(name=" ++ Text.quoted name ++ ", cancelled=False)"
  | .tokenView name cancelled _ =>
    "CancellationToken(name=" ++ Text.quoted name ++ ", cancelled="
      ++ (if cancelled then "True" else "False") ++ ")"
  | .type name _ => "<class '" ++ ((home? name).map (· ++ ".")).getD "" ++ name ++ "'>"
  | .moment m => m.literal
  | .method kind owner name holder => (match kind with
    | .builtin => "<built-in method " ++ name ++ " of " ++ className holder.kindName ++ " object>"
    | .operator => "<method-wrapper " ++ Text.quoted name ++ " of " ++ className holder.kindName ++ " object>"
    | _ => "<bound method " ++ owner ++ "." ++ name ++ " of " ++ literalIn around holder ++ ">")
  | .member kind owner name =>
    let held (what : String) : String :=
      enclosed ("<" ++ what ++ " ") (Text.quoted name ++ " of " ++ Text.quoted (className owner)) " objects>"
    (match kind with
    | .written => "<function " ++ owner ++ "." ++ name ++ ">"
    | .builtin => held "method"
    | .operator => held "slot wrapper"
    | .computed => held "attribute"
    | .stored => held "member")
  | .knot label inside => if around.contains label then ellipsis inside else literalIn (label :: around) inside
  | .again _ isTable => ellipsis (if isTable then .table [] else .list [])
termination_by structural v

def literals (around : List Nat) (vs : List Value) : List String :=
  match vs with
  | [] => []
  | v :: rest => literalIn around v :: literals around rest
termination_by structural vs

def entryLiterals (around : List Nat) (es : List (Value × Value)) : List String :=
  match es with
  | [] => []
  | e :: rest => entryLiteral around e :: entryLiterals around rest
termination_by structural es

def entryLiteral (around : List Nat) (e : Value × Value) : String :=
  match e with
  | (k, v) => literalIn around k ++ ": " ++ literalIn around v
termination_by structural e

def fieldLiterals (around : List Nat) (fs : List (String × Value)) : List String :=
  match fs with
  | [] => []
  | f :: rest => fieldLiteral around f :: fieldLiterals around rest
termination_by structural fs

def fieldLiteral (around : List Nat) (f : String × Value) : String :=
  match f with
  | (k, v) => k ++ "=" ++ literalIn around v
termination_by structural f

end

def literal (v : Value) : String := v.literalIn []

/-- An integer that has too many digits to be written. -/
def isTooLong : Value → Bool
  | .int i => Nat.pow 10 Numeral.digitLimit ≤ i.natAbs
  | _ => false

/-- Whether a value can be written: no integer in it is too long. -/
def isWritable (v : Value) : Bool := !v.anyPart isTooLong

theorem isWritable_int (i : Int) : (Value.int i).isWritable = !(Value.int i).isTooLong :=
  congrArg not (Bool.or_false _)

/-- The text that stands for a value in running text. -/
def shown : Value → String
  | .text s => s
  | .symbol _ s => s
  | .moment m => m.text
  | v => v.literal

end Value

end Statechart
