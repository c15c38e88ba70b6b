import Statechart.Machine.Build
import Statechart.Text.Blank

/-!
# The signup machine

A visitor submits an address, the request is under way in one state, and ends in success, in an error or by being
cancelled. Entering that state starts the request; leaving it, on whatever event, cancels the token that came with
the submission. Only an address that is not blank can be submitted.
-/

set_option autoImplicit false
set_option relaxedAutoImplicit false

namespace Statechart.Newsletter

variable {σ : Type}

def family : String := "NewsletterState"

def notSubmitted : Value := .symbol family "NOT_SUBMITTED"

def submitting : Value := .symbol family "SUBMITTING"

def success : Value := .symbol family "SUCCESS"

def failed : Value := .symbol family "ERROR"

def event (name : String) : Value := .symbol "NewsletterEvent" name

def submitEvent : Value := event "SUBMIT"

def resetEvent : Value := event "RESET"

def logSuccessEvent : Value := event "LOG_SUCCESS"

def logErrorEvent : Value := event "LOG_ERROR"

def cancelEvent : Value := event "CANCEL"

/-- The context of the machine. -/
structure Signup where
  email : Value := .text ""
  data : Value := .null
  error : Value := .null
  token : Value := .null

def Signup.toValue (s : Signup) : Value :=
  .record "NewsletterContext"
    [("email", s.email), ("data", s.data), ("error", s.error), ("token", s.token)]

/-- A record with some fields changed. -/
def update (changes : List (String × Value)) : Value → Outcome Value
  | .record name fields => (Action.replaceFields fields changes).map (.record name)
  | _ => .error .wrongType

/-- A field of a record. -/
def field (context : Value) (name : String) : Outcome Value :=
  match context with
  | .record _ fields =>
    match fields.lookup name with
    | some v => .ok v
    | none => .error (.plain .missingAttribute)
  | _ => .error (.plain .missingAttribute)

/-- The event carries an address that is not blank. -/
def hasEmail (event : Event) : Bool :=
  match (event.payload "email").asText? with
  | some s => !(Text.trim s).isEmpty
  | none => false

def takeSubmission (context : Value) (event : Event) : Outcome Value := do
  let email ← event.item (.text "email")
  update [("email", email), ("token", event.payload "token")] context

def recordError (context : Value) (event : Event) : Outcome Value :=
  update [("data", .null), ("error", event.payload "message")] context

def recordSuccess (context : Value) (event : Event) : Outcome Value :=
  update [("data", event.payload "message"), ("error", .null)] context

def assign (name : String) (body : Value → Event → Outcome Value) : Action σ :=
  .assign (.function (some name) body)

/-- Cancels the token of the context. -/
def cancelSubmission : Action σ :=
  .effect ⟨"cancelSubmission", .effect (some "_cancel_submission") fun context event ↦
    match field context "token" with
    | .error f => .fail f
    | .ok .null => .done
    | .ok (.token id) =>
      .request (.cancel id (.text ("left " ++ submitting.shown ++ " on " ++ event.kind.shown)))
    | .ok _ => .fail (.plain .missingAttribute)⟩

/-- Writes the error of the context. -/
def logError (sink : Sink) : Action σ :=
  Action.ofLog (.computed fun context _ ↦ do
    return .text ("Signup failed: " ++ (← field context "error").shown)) sink "ERROR" "logError"

/-- An effect for which a caller may have given a callable. -/
def optionalEffect (kind : String) (c : Option (Callee σ)) : Action σ :=
  .effect ⟨kind, c.getD (.effect (some "<lambda>") fun _ _ ↦ .done)⟩

def submit : Transition σ :=
  ⟨some submitting, some (.function (some "_has_email") fun _ event ↦ .ok (.bool (hasEmail event))),
    [assign "_take_submission" takeSubmission]⟩

def reset (clear : Action σ) : Transition σ :=
  ⟨some notSubmitted, none, [clear, assign "_clear" fun _ _ ↦ .ok (Signup.toValue {})]⟩

/-- A state at rest, which reacts to a submission and to a reset. -/
def resting (clear : Action σ) : Node σ :=
  ⟨[(submitEvent, submit), (resetEvent, reset clear)], [], []⟩

/-- The signup machine around the effects that start a submission and clear the input. -/
def machine (start : Callee σ) (clear : Option (Callee σ)) (sink : Sink) : Machine σ :=
  let clear := optionalEffect "clearInput" clear
  { initial := notSubmitted
    name := .text "newsletter"
    context := Signup.toValue {}
    events := some [submitEvent, resetEvent, logSuccessEvent, logErrorEvent, cancelEvent]
    states := [
      (notSubmitted, resting clear),
      (submitting,
        { on := [
            (logErrorEvent, ⟨some failed, none, [assign "_record_error" recordError, logError sink]⟩),
            (logSuccessEvent, ⟨some success, none, [clear, assign "_record_success" recordSuccess]⟩),
            (cancelEvent, ⟨some notSubmitted, none, []⟩)]
          entry := [.effect ⟨"startSubmission", start⟩]
          exit := [cancelSubmission] }),
      (failed, resting clear),
      (success, resting clear)] }

end Statechart.Newsletter
