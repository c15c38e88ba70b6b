import Statechart.Script

/-!
# Registries of listeners

A registry holds listeners in the order of their registration, each under a ticket of its own that is never given
out again. A listener that is present is not registered a second time.
-/

set_option autoImplicit false
set_option relaxedAutoImplicit false

namespace Statechart

structure Registry where
  entries : List (Nat × Listener) := []
  /-- The ticket of the next registration. -/
  next : Nat := 0
deriving Repr, Inhabited

namespace Registry

/-- Registers a listener and gives its ticket, the one it has if it is present. -/
def add (r : Registry) (l : Listener) : Registry × Nat :=
  match r.entries.find? fun e ↦ e.2 == l with
  | some e => (r, e.1)
  | none => (⟨r.entries ++ [(r.next, l)], r.next + 1⟩, r.next)

def hasTicket (r : Registry) (ticket : Nat) : Bool := r.entries.any fun e ↦ e.1 == ticket

/-- The ticket that a value stands for, if it is one of those in use. -/
def ticket? (r : Registry) (v : Value) : Option Nat :=
  (r.entries.find? fun e ↦ (Value.int e.1).same v).map (·.1)

/-- Ends the registration under a ticket, and tells whether there was one. -/
def remove (r : Registry) (ticket : Nat) : Registry × Bool :=
  ({ r with entries := r.entries.filter fun e ↦ e.1 != ticket }, r.hasTicket ticket)

def clear (r : Registry) : Registry := { r with entries := [] }

def contains (r : Registry) (l : Listener) : Bool := r.entries.any fun e ↦ e.2 == l

def size (r : Registry) : Nat := r.entries.length

end Registry

end Statechart
