import Statechart.Value.Literal

/-!
# Failures

Every way in which an operation can fail, as a cause. The library's own failures carry what went wrong and
have a stable text, given by `Failure.message?`; faults of evaluation carry their kind alone. An interrupt is the
one failure that handlers of ordinary failures let pass.
-/

set_option autoImplicit false
set_option relaxedAutoImplicit false

namespace Statechart

/-- One step of the way to a place in a document. -/
inductive Place where
  | key (name : String)
  | index (i : Int)
deriving DecidableEq, Repr

/-- The kinds of problem that checking a document finds. -/
inductive ProblemKind where
  | missing
  | extraForbidden
  | stringType
  | stringUnicode
  | dictType
  | listType
  | modelType
  | literalError
  | valueError
  | invalidKey
deriving DecidableEq, Repr

/-- A problem of a document: where it is, of which kind, and what is said about it. -/
structure Problem where
  location : List Place
  kind : ProblemKind
  text : String
deriving DecidableEq, Repr

/-- Faults of evaluation and of the surroundings. -/
inductive Fault where
  | wrongType
  | missingKey
  | missingAttribute
  | outOfRange
  | badValue
  | overflow
  | outOfMemory
  /-- Too many levels of nesting. -/
  | tooDeep
  | undecodable
  | badToml
  | badYaml
  | runtime
  | importFailed
  | fileNotFound
  | isDirectory
  | notDirectory
  | fileExists
  | permissionDenied
  | nameTooLong
  | unsupportedUrl
  | badUrl
  /-- A host name that is malformed, or stands for one that is. -/
  | badName
  | badLetter
  | badContext
  | badDirection
  /-- The other side breaks the rules of the exchange. -/
  | badReply
  /-- Content that cannot be unpacked. -/
  | badContent
  | unencodable
  | badText
  | unmetCondition
  | closedClient
  | interrupt
deriving DecidableEq, Repr

inductive Failure where
  /-- A failure of the library with a text of its own. -/
  | general (text : String)
  | configuration (component reason : String)
  /-- A value breaks a rule; the value is shown unless it is null. -/
  | validation (field constraint : String) (value : Value)
  | unresolved (reference reason : String)
  | notLoaded (source reason : String)
  | badManifest (source : String) (problems : List Problem)
  | unknownState (state : Value) (declared : List String)
  | lifecycle (status operation : String)
  | http (status body : Value) (text : String)
  | cancelled (name : String) (reason : Value)
  /-- Wrong use of the command line, with a text where the library gives one. -/
  | usage (text : Option String)
  /-- A fault, with a text where one is known. -/
  | fault (kind : Fault) (text : Option String)
  /-- A fault of something outside, whose text is told only where it becomes part of another text. -/
  | foreign (kind : Fault) (text : String)
deriving Repr, Inhabited

namespace Failure

def plain (kind : Fault) : Failure := .fault kind none

def wrongType : Failure := plain .wrongType

def missingKey : Failure := plain .missingKey

def badValue : Failure := plain .badValue

/-- Ordinary failures are all but interrupts. -/
def isOrdinary : Failure → Bool
  | .fault .interrupt _ => false
  | _ => true

/-- The library's own failures. -/
def isOwn : Failure → Bool
  | .fault _ _ | .foreign _ _ | .usage _ => false
  | _ => true

/-- How many declared states are listed by name. -/
def listedStates : Nat := 5

/-- The declared states, the first few by name. -/
def declaredText (declared : List String) : String :=
  if declared.isEmpty then ""
  else
    let hidden := declared.length - listedStates
    ". Declared: " ++ ", ".intercalate (declared.take listedStates)
      ++ (if hidden > 0 then " ... and " ++ toString hidden ++ " more" else "")

/-- The text of a failure, where it has one. -/
def message? : Failure → Option String
  | .general text => some text
  | .configuration component reason =>
    some ("Configuration error in '" ++ component ++ "': " ++ reason)
  | .validation field constraint value =>
    let detail := match value with
      | .null => ""
      | v => " (got " ++ v.literal ++ ")"
    some ("Validation failed for '" ++ field ++ "': " ++ constraint ++ detail)
  | .unresolved reference reason => some ("Cannot resolve '" ++ reference ++ "': " ++ reason)
  | .notLoaded source reason => some ("Cannot load machine from " ++ source ++ ": " ++ reason)
  | .badManifest source _ => some ("Cannot load machine from " ++ source ++ ": <manifest>")
  | .unknownState state declared =>
    some ("State " ++ state.literal ++ " is not declared by the machine" ++ declaredText declared)
  | .lifecycle status operation => some ("Cannot " ++ operation ++ " a service that is " ++ status)
  | .http status _ text => some (if text == "" then "HTTP " ++ status.shown else text)
  | .cancelled name reason =>
    some ("Operation '" ++ name ++ "' was cancelled"
      ++ (if reason.isTruthy then ": " ++ reason.shown else ""))
  | .usage text => text
  | .fault _ text => text
  | .foreign _ _ => none

/-- What a failure says where it becomes part of another text; a missing key is named as it is written. -/
def said : Failure → String
  | .fault .missingKey (some key) => Text.quoted key
  | .foreign _ text => text
  | f => f.message?.getD ""

end Failure

/-- The result of an evaluation that can fail. -/
abbrev Outcome (α : Type) := Except Failure α

/-- What follows a computation succeeds only if the computation does. -/
theorem ok_of_bind {α β : Type} {x : Outcome α} {f : α → Outcome β} {b : β} (h : x >>= f = .ok b) :
    ∃ a, x = .ok a ∧ f a = .ok b := by
  cases x with
  | error e => cases h
  | ok a => exact ⟨a, rfl, h⟩

namespace Value

/-- The text of a value, if it can be written. -/
def literal? (v : Value) : Outcome String := if v.isWritable then .ok v.literal else .error .badValue

/-- The text that stands for a value in running text, if it can be written. -/
def shown? (v : Value) : Outcome String := if v.isWritable then .ok v.shown else .error .badValue

end Value

namespace Failure

/-- A value that breaks a rule; one that cannot be written is a bad value in the first place. -/
def refusing (field constraint : String) (v : Value) : Failure :=
  if v.isWritable then .validation field constraint v else badValue

/-- A state that is none of the declared ones. -/
def undeclared (state : Value) (declared : List Value) : Failure :=
  if (state :: declared).all Value.isWritable then .unknownState state (declared.map Value.shown) else badValue

end Failure

end Statechart
