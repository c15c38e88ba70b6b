import Statechart.Failure
import Statechart.Value.Same

/-!
# Sums, products and order of values

Truth values count as integers, and an integer beside a number is rounded to one. Texts and sequences of one
kind are joined by a sum and repeated by a product with an integer.
-/

set_option autoImplicit false
set_option relaxedAutoImplicit false

namespace Statechart

namespace Value

/-- The number that an integer is rounded to, a fault if it is too large. -/
def toDouble (i : Int) : Outcome Double :=
  match Double.ofInt? i with
  | some d => .ok d
  | none => .error (.plain .overflow)

/-- Both operands as integers, or both as numbers. -/
inductive Operands where
  | ints (a b : Int)
  | doubles (a b : Double)
  | other

def operands (a b : Value) : Outcome Operands :=
  match a.asInt?, b.asInt?, a, b with
  | some i, some j, _, _ => .ok (.ints i j)
  | some i, _, _, .float y => (toDouble i).map (.doubles · y)
  | _, some j, .float x, _ => (toDouble j).map (.doubles x ·)
  | _, _, .float x, .float y => .ok (.doubles x y)
  | _, _, _, _ => .ok .other

/-- Counts are signed numbers of 64 bits, and no sequence is as long as the second limit. -/
def countLimit : Nat := Nat.pow 2 63

def lengthLimit : Nat := Nat.pow 2 40

/-- A sequence repeated; a count below zero is taken for zero. -/
def repeated {α : Type} (xs : List α) (n : Int) : Outcome (List α) :=
  if n < -(countLimit : Int) || (countLimit : Int) ≤ n then .error (.plain .overflow)
  else if xs.isEmpty then .ok []
  else if lengthLimit < n.toNat * xs.length then .error (.plain .outOfMemory)
  else .ok (List.replicate n.toNat xs).flatten

def plus (a b : Value) : Outcome Value := do
  match ← operands a b with
  | .ints i j => return .int (i + j)
  | .doubles x y => return .float (x.add y)
  | .other =>
    match a.asText?, b.asText?, a.opened, b.opened with
    | some s, some t, _, _ => return .text (s ++ t)
    | _, _, .list xs, .list ys => return .list (xs ++ ys)
    | _, _, .tuple xs, .tuple ys => return .tuple (xs ++ ys)
    | _, _, .bytes xs, .bytes ys => return .bytes (xs ++ ys)
    | _, _, _, _ => throw .wrongType

/-- A text or sequence repeated, with `none` for any other value. -/
def repeat? (v : Value) (n : Int) : Option (Outcome Value) :=
  match v.opened with
  | .text s | .symbol _ s => some ((repeated s.toList n).map fun cs ↦ .text (String.ofList cs))
  | .list xs => some ((repeated xs n).map .list)
  | .tuple xs => some ((repeated xs n).map .tuple)
  | .bytes xs => some ((repeated xs n).map .bytes)
  | _ => none

def times (a b : Value) : Outcome Value := do
  match ← operands a b with
  | .ints i j => return .int (i * j)
  | .doubles x y => return .float (x.mul y)
  | .other =>
    match (b.asInt?.bind a.repeat?).or (a.asInt?.bind b.repeat?) with
    | some v => v
    | none => throw .wrongType

/-- The order of two scalars: `none` where they are comparable and unordered, a fault where they are not. -/
def scalarOrder (a b : Value) : Outcome (Option Ordering) :=
  match a.asInt?, b.asInt?, a, b with
  | some i, some j, _, _ => .ok (some (compare i j))
  | some i, _, _, .float y => .ok ((y.compareInt? i).map Ordering.swap)
  | _, some j, .float x, _ => .ok (x.compareInt? j)
  | _, _, .float x, .float y => .ok (x.compare? y)
  | _, _, .bytes x, .bytes y => .ok (some (compare (x.map (·.toNat)) (y.map (·.toNat))))
  | _, _, _, _ =>
    match a.asText?, b.asText? with
    | some s, some t => .ok (some (compare s t))
    | _, _ => .error .wrongType

mutual

/-- Whether a value comes before another; sequences of one kind compare at the first place that differs. -/
def before (a b : Value) : Outcome Bool :=
  match a.opened, b with
  | .list xs, .list ys => itemsBefore xs ys
  | .tuple xs, .tuple ys => itemsBefore xs ys
  | .set xs, .set ys => .ok (xs.length < ys.length && alikeMembers ys xs)
  | v, .knot _ inside => v.before inside
  | .list _, _ => .error .wrongType
  | .tuple _, _ => .error .wrongType
  | .set _, _ => .error .wrongType
  | .table _, _ => .error .wrongType
  | .event _ _, _ => .error .wrongType
  | .record _ _, _ => .error .wrongType
  | .tokenView _ _ _, _ => .error .wrongType
  | v, b => (scalarOrder v b).map (· == some .lt)
termination_by structural b

def itemsBefore (a b : List Value) : Outcome Bool :=
  match a, b with
  | [], ys => .ok !ys.isEmpty
  | _ :: _, [] => .ok false
  | x :: xs, y :: ys => if x.alike y then itemsBefore xs ys else x.before y
termination_by structural b

end

end Value

end Statechart
