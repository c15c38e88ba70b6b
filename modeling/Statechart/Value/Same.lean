import Statechart.Value.Knot

/-!
# Equality of values and of keys

Values are the same if they have equal contents: truth values and numbers of all kinds compare as numbers,
tables regardless of the order of their entries. Parts of values, and keys, are also alike if they are one and the
same, which counts for what is not a number. Lists, tables, sets and events are no keys, nor is a tuple that holds one.
-/

set_option autoImplicit false
set_option relaxedAutoImplicit false

namespace Statechart

namespace Value

/-- Equality of two scalars of any kind. -/
def sameScalar : Value → Value → Bool
  | .null, .null => true
  | .bool a, .bool b => a == b
  | .bool a, .int j => (if a then 1 else 0) == j
  | .int i, .bool b => i == (if b then 1 else 0)
  | .int i, .int j => i == j
  | .float a, .float b => a.same b
  | .float a, .int j => a.compareInt? j == some .eq
  | .int i, .float b => b.compareInt? i == some .eq
  | .float a, .bool b => a.compareInt? (if b then 1 else 0) == some .eq
  | .bool a, .float b => b.compareInt? (if a then 1 else 0) == some .eq
  | .text a, .text b => a == b
  | .text a, .symbol _ b => a == b
  | .symbol _ a, .text b => a == b
  | .symbol _ a, .symbol _ b => a == b
  | .bytes a, .bytes b => a == b
  | .token a, .token b => a == b
  | .tokenView a _ _, .tokenView b _ _ => a == b
  | .type a _, .type b _ => a == b
  | .member k a n, .member l b m => k == l && a == b && n == m
  | .moment a, .moment b => a.same b
  | _, _ => false

mutual

/-- Equality of parts of values: of equal contents, or the very same. Two knots of one label are one. -/
def alike (a b : Value) : Bool :=
  match a.opened, b with
  | .list xs, .list ys => alikeItems xs ys
  | .tuple xs, .tuple ys => alikeItems xs ys
  | .set xs, .set ys => xs.length == ys.length && alikeMembers xs ys
  | .table xs, .table ys => xs.length == ys.length && alikeEntries xs ys
  | .event k xs, .event l ys => k.alike l && xs.length == ys.length && alikeEntries xs ys
  | .record n xs, .record m ys => n == m && alikeFields xs ys
  | .float x, .float y => x.alike y
  | _, .list _ => false
  | _, .tuple _ => false
  | _, .set _ => false
  | _, .table _ => false
  | _, .event _ _ => false
  | _, .record _ _ => false
  | v, .knot l inside => (match a with
    | .knot m _ => m == l
    | _ => false) || v.alike inside
  | v, b => sameScalar v b
termination_by structural b

/-- Equality place by place. -/
def alikeItems (a b : List Value) : Bool :=
  match a, b with
  | [], [] => true
  | x :: xs, y :: ys => x.alike y && alikeItems xs ys
  | _, _ => false
termination_by structural b

/-- Every item of the second list is in the first. -/
def alikeMembers (a b : List Value) : Bool :=
  match b with
  | [] => true
  | y :: ys => a.any (fun x ↦ x.alike y) && alikeMembers a ys
termination_by structural b

/-- Every entry of the second list is in the first. -/
def alikeEntries (a b : List (Value × Value)) : Bool :=
  match b with
  | [] => true
  | y :: ys => a.any (fun x ↦ alikeEntry x y) && alikeEntries a ys
termination_by structural b

def alikeEntry (x y : Value × Value) : Bool :=
  match y with
  | (k, v) => x.1.alike k && x.2.alike v
termination_by structural y

def alikeFields (a b : List (String × Value)) : Bool :=
  match a, b with
  | [], [] => true
  | x :: xs, y :: ys => alikeField x y && alikeFields xs ys
  | _, _ => false
termination_by structural b

def alikeField (x y : String × Value) : Bool :=
  match y with
  | (k, v) => x.1 == k && x.2.alike v
termination_by structural y

end

/-- Equality of values. What is not a number equals nothing, itself included, unless it is a part of a value. -/
def same (a b : Value) : Bool :=
  match a, b with
  | .float x, .float y => x.same y
  | a, b => a.alike b

/-! ### Values within themselves -/

/-- All answers are yes; the first that is not decides. -/
def conjunction : List (Unit → Option Bool) → Option Bool
  | [] => some true
  | a :: rest =>
    match a () with
    | some true => conjunction rest
    | answer => answer

/-- Equality of parts that may stand within themselves, down to a depth; without an answer where it is not found
there. -/
def alikeWithin : Nat → Value → Value → Option Bool
  | 0, _, _ => none
  | depth + 1, a, b =>
    let items (xs ys : List Value) : List (Unit → Option Bool) :=
      List.zipWith (fun x y _ ↦ alikeWithin depth x y) xs ys
    let isOne : Bool := match a, b with
      | .knot l _, .knot m _ => l == m
      | _, _ => false
    if isOne then some true
    else
      match a.opened, b.opened with
      | .list xs, .list ys => if xs.length == ys.length then conjunction (items xs ys) else some false
      | .tuple xs, .tuple ys => (conjunction (items xs ys)).map (· && xs.length == ys.length)
      | .table es, .table fs =>
        if es.length == fs.length then
          conjunction (es.map fun (k, v) _ ↦
            match fs.find? fun f ↦ f.1.alike k with
            | some f => alikeWithin depth v f.2
            | none => some false)
        else some false
      | v, w => some (v.alike w)

/-- How deep a comparison goes. -/
def comparisonDepth : Nat := 500

/-- Equality of values, without an answer for two that stand within themselves and nowhere differ. -/
def same? (a b : Value) : Option Bool :=
  if a.isCyclic && b.isCyclic then alikeWithin comparisonDepth a b else some (a.same b)

mutual

/-- The value can be a key. -/
def isKey (a : Value) : Bool :=
  match a with
  | .list _ | .set _ | .table _ | .event _ _ | .knot _ _ | .again _ _ => false
  | .tuple xs => areKeys xs
  | .record _ fields => areKeyFields fields
  | _ => true
termination_by structural a

def areKeys (a : List Value) : Bool :=
  match a with
  | [] => true
  | x :: xs => x.isKey && areKeys xs
termination_by structural a

def areKeyFields (a : List (String × Value)) : Bool :=
  match a with
  | [] => true
  | x :: xs => isKeyField x && areKeyFields xs
termination_by structural a

def isKeyField (a : String × Value) : Bool :=
  match a with
  | (_, v) => v.isKey
termination_by structural a

end

end Value

end Statechart
