import Statechart.Service.Step

/-!
# Scenarios

A scenario plays commands: at the top, and inside effects and listeners, where each command writes when it begins
and what it was answered. Inside, a command may be limited to some of the times that it is reached and to
notifications of one value; how often each was reached is kept in the memory of the scripts.
-/

set_option autoImplicit false
set_option relaxedAutoImplicit false

namespace Statechart

/-- The memory of a scenario: how often each numbered command was reached, and what else its scripts keep. -/
structure Memory (τ : Type) where
  reached : List (Nat × Nat) := []
  own : τ

/-- What a command does. -/
inductive Deed (τ : Type) where
  | request (r : Request (Memory τ))
  | say (v : Value)
  | raise (f : Failure)
  /-- A command that cannot be understood. -/
  | broken (f : Failure)

structure Command (τ : Type) where
  /-- The word under which the command is written to the journal. -/
  word : String
  /-- A number that no other command of the scenario has. -/
  number : Nat := 0
  /-- The value that has to be notified. -/
  onlyAt : Option Value := none
  skip : Nat := 0
  times : Option Nat := none
  deed : Deed τ

namespace Memory

variable {τ : Type}

/-- Counts that a command is reached; answers how often it was reached before. -/
def reach (number : Nat) (m : Memory τ) : Answer × Memory τ :=
  let before := (m.reached.lookup number).getD 0
  (.value (.int before), { m with reached := (number, before + 1) :: m.reached.filter fun r ↦ r.1 != number })

end Memory

namespace Command

variable {τ : Type}

/-- Whether the command is executed when it was reached so often before. -/
def isDue (c : Command τ) (before : Nat) : Bool :=
  c.skip ≤ before && (match c.times with
    | none => true
    | some n => before < c.skip + n)

/-- Writes a word, makes the request, writes the answer. -/
def announced (word : String) (r : Request (Memory τ)) (rest : Script (Memory τ)) : Script (Memory τ) :=
  .call (.journal (.began word)) fun _ ↦
    .call r fun a ↦
      .call (.journal (.answered word a)) fun _ ↦ rest

def execute (c : Command τ) (rest : Script (Memory τ)) : Script (Memory τ) :=
  match c.deed with
  | .raise f => .fail f
  | .broken f => .call (.journal (.began c.word)) fun _ ↦ .fail f
  | .say v => announced c.word (.change fun m ↦ (.value v, m)) rest
  | .request r => announced c.word r rest

/-- The commands of a callback that was called with a value. -/
def script (notified : Value) : List (Command τ) → Script (Memory τ)
  | [] => .done
  | c :: rest =>
    let after := script notified rest
    if c.onlyAt.any fun v ↦ !v.same notified then after
    else
      .call (.change (Memory.reach c.number)) fun a ↦
        match a with
        | .value (.int before) => if c.isDue before.toNat then c.execute after else after
        | _ => after

/-- An effect that writes its call to the journal and then executes commands. -/
def effect (name : Option String) (commands : List (Command τ)) : Callee (Memory τ) :=
  .effect name fun context event ↦
    .call (.journal (.effect name context event.kind)) fun _ ↦ script .null commands

/-- The value that commands of a listener are limited by. -/
def notifiedValue : Published → Value
  | .state s => s.value
  | .token id => .token id
  | .value v => v

/-- What named listeners do: they write their call and then execute their commands. -/
def listener (table : List (String × List (Command τ))) (name : String) (what : Published) :
    Script (Memory τ) :=
  .call (.journal (.listener name what)) fun _ ↦
    script (notifiedValue what) ((table.lookup name).getD [])

/-- The behaviour of listeners that are all named. -/
def behaviour (table : List (String × List (Command τ))) : Listener → Published → Script (Memory τ)
  | .named name, what => listener table name what
  | _, _ => .done

end Command

/-- The outcome of a step at the top, with what was written during it, in order. -/
structure StepResult where
  outcome : Outcome Answer
  trace : List Entry

namespace World

variable {τ : Type}

/-- Plays one command at the top. -/
def step (w : World (Memory τ)) (deed : Deed τ) : World (Memory τ) × StepResult :=
  let w := { w with journal := [] }
  match deed with
  | .say v => (w, ⟨.ok (.value v), []⟩)
  | .raise f | .broken f => (w, ⟨.error f, []⟩)
  | .request r =>
    let (w, signal) := w.ask r
    let outcome := match signal with
      | .returning a => .ok (w.pictureAnswer a)
      | .failing f => .error f
    (w, ⟨outcome, w.journal.reverse⟩)

end World

end Statechart
