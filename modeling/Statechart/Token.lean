import Statechart.Script
import Statechart.Value.Knot

/-!
# Cancellation tokens

A token is cancelled at most once and then keeps its reason. Callbacks added before wait for the cancellation.
-/

set_option autoImplicit false
set_option relaxedAutoImplicit false

namespace Statechart

structure Token where
  name : String
  cancelled : Bool := false
  reason : Value := .null
  callbacks : List Listener := []
deriving Repr, Inhabited

namespace Token

/-- The token cancelled for a reason, and the callbacks to be called. -/
def cancel (t : Token) (reason : Value) : Token × List Listener :=
  ({ t with cancelled := true, reason := reason, callbacks := [] }, t.callbacks)

def view (t : Token) : Value := .tokenView t.name t.cancelled t.reason

/-- A failure if the token is cancelled. -/
def check (t : Token) : Outcome Unit :=
  if !t.cancelled then .ok ()
  else .error (if t.reason.isWritable then .cancelled t.name t.reason else .badValue)

end Token

namespace Value

/-- The value with every live token replaced by a picture of it. -/
def picture (view : String → Value) (v : Value) : Value :=
  v.mapLeaves (fun leaf ↦ match leaf with
    | .token id => view id
    | leaf => leaf) id

end Value

end Statechart
