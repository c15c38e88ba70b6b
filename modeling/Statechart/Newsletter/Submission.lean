import Statechart.Http.Client
import Statechart.Newsletter.Machine

/-!
# Submissions

A submission is work that a form has begun: it asks a submitter once, may have to wait for a gate, and ends with a message
or with a failure. It can be aborted before it has ended; a submission that was not begun yet then never asks, and one that
waits may still end in its own way.
-/

set_option autoImplicit false
set_option relaxedAutoImplicit false

namespace Statechart.Newsletter

/-- How a submission goes: the gate that it waits for, how it ends, and how it ends when it is aborted while it waits. An
aborted submission normally ends without an outcome. -/
structure Course where
  gate : Option String := none
  outcome : Outcome Value
  whenAborted : Option (Outcome Value) := none

/-- Who is asked: someone whose courses are given, the last one standing for all further ones, or a server. -/
inductive Submitter where
  | scripted (courses : List Course) (asked : Nat)
  | http (url : Value) (client : Http.Client)

/-- Where a submission stands. -/
inductive Phase where
  | fresh
  | waiting (course : Course)
  | finished

structure Submission where
  email : Value
  /-- The token of the submission; null for one that nobody else knows. -/
  token : Value
  phase : Phase := .fresh
  aborted : Bool := false

namespace Submission

def isFinished (s : Submission) : Bool :=
  match s.phase with
  | .finished => true
  | _ => false

def isWaitingFor (gate : String) (s : Submission) : Bool :=
  match s.phase with
  | .waiting c => c.gate == some gate
  | _ => false

end Submission

namespace Submitter

/-- The course where none is given. -/
def usual : Course := { outcome := .ok (.text "ok") }

/-- What is logged when an address is submitted. -/
def records (s : Submitter) (email : Value) : List Entry :=
  match s with
  | .scripted _ _ => [.asked email]
  | .http url _ => [Http.Client.record (.text "GET") url]

/-- Asks with an address: the course that the submission takes, and the submitter afterwards. -/
def ask (s : Submitter) : Submitter × Course :=
  match s with
  | .scripted courses asked =>
    let course := match courses[asked]? with
      | some c => c
      | none => courses.getLast?.getD usual
    (.scripted courses (asked + 1), course)
  | .http url client =>
    let (client, outcome) := client.submit url
    (.http url client, { outcome := outcome.map .text })

/-- Gives up what a submitter of the form's own holds. -/
def close : Submitter → Submitter
  | .http url client => .http url client.close
  | s => s

end Submitter

end Statechart.Newsletter
