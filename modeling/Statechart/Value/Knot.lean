import Statechart.Value.Basic

/-!
# Values that stand within themselves

A knot is a list, tuple or table that stands somewhere within itself: there a mark with the knot's label takes its
place. Opening a knot puts the whole knot back in the place of its marks, so that its parts are values of their own.
-/

set_option autoImplicit false
set_option relaxedAutoImplicit false

namespace Statechart.Value

/-! ### Leaves -/

mutual

/-- The value with its leaves replaced and its knots labelled anew. -/
def mapLeaves (leaf : Value → Value) (label : Nat → Nat) (v : Value) : Value :=
  match v with
  | .list xs => .list (mapItems leaf label xs)
  | .tuple xs => .tuple (mapItems leaf label xs)
  | .set xs => .set (mapItems leaf label xs)
  | .table es => .table (mapEntries leaf label es)
  | .event kind data => .event (mapLeaves leaf label kind) (mapEntries leaf label data)
  | .record name fields => .record name (mapFields leaf label fields)
  | .knot l inside => .knot (label l) (mapLeaves leaf label inside)
  | .again l isTable => .again (label l) isTable
  | v => leaf v
termination_by structural v

def mapItems (leaf : Value → Value) (label : Nat → Nat) (vs : List Value) : List Value :=
  match vs with
  | [] => []
  | v :: rest => mapLeaves leaf label v :: mapItems leaf label rest
termination_by structural vs

def mapEntries (leaf : Value → Value) (label : Nat → Nat) (es : List (Value × Value)) : List (Value × Value) :=
  match es with
  | [] => []
  | e :: rest => mapEntry leaf label e :: mapEntries leaf label rest
termination_by structural es

def mapEntry (leaf : Value → Value) (label : Nat → Nat) (e : Value × Value) : Value × Value :=
  match e with
  | (k, v) => (mapLeaves leaf label k, mapLeaves leaf label v)
termination_by structural e

def mapFields (leaf : Value → Value) (label : Nat → Nat) (fs : List (String × Value)) : List (String × Value) :=
  match fs with
  | [] => []
  | f :: rest => mapField leaf label f :: mapFields leaf label rest
termination_by structural fs

def mapField (leaf : Value → Value) (label : Nat → Nat) (f : String × Value) : String × Value :=
  match f with
  | (k, v) => (k, mapLeaves leaf label v)
termination_by structural f

end

/-- How many labels, and marks of what is not a number, one document has. -/
def documentSize : Nat := Nat.pow 2 32

/-- The value as a part of a numbered document: its knots, and what is not a number, differ from those of others. A
mark below the size of a document belongs to no document. -/
def inDocument (number : Nat) (v : Value) : Value :=
  v.mapLeaves (fun leaf ↦ match leaf with
      | .float d =>
        if d.isNaN && documentSize ≤ d.mark then .float (.nanOf (d.mark + number * documentSize)) else leaf
      | leaf => leaf)
    (· + number * documentSize)

/-! ### Knots -/

mutual

/-- The value with a whole in the place of its marks. -/
def tied (label : Nat) (whole v : Value) : Value :=
  match v with
  | .again l isTable => if l == label then whole else .again l isTable
  | .knot l inside => if l == label then .knot l inside else .knot l (tied label whole inside)
  | .list xs => .list (tiedItems label whole xs)
  | .tuple xs => .tuple (tiedItems label whole xs)
  | .table es => .table (tiedEntries label whole es)
  | v => v
termination_by structural v

def tiedItems (label : Nat) (whole : Value) (vs : List Value) : List Value :=
  match vs with
  | [] => []
  | v :: rest => tied label whole v :: tiedItems label whole rest
termination_by structural vs

def tiedEntries (label : Nat) (whole : Value) (es : List (Value × Value)) : List (Value × Value) :=
  match es with
  | [] => []
  | e :: rest => tiedEntry label whole e :: tiedEntries label whole rest
termination_by structural es

def tiedEntry (label : Nat) (whole : Value) (e : Value × Value) : Value × Value :=
  match e with
  | (k, v) => (k, tied label whole v)
termination_by structural e

end

/-- The value with its own knot opened; any other value is as it is. -/
def opened : Value → Value
  | .knot label inside => tied label (.knot label inside) inside
  | v => v

/-- Whether a value, or a part of it, stands within itself. -/
def isCyclic (v : Value) : Bool :=
  v.anyPart fun part ↦ match part with
    | .again _ _ => true
    | _ => false

/-- A value with a label of its own as a knot, if it holds the mark of this label or of one around it. -/
def knotted (label : Nat) (around : List Nat) (v : Value) : Value :=
  let holdsMark := v.anyPart fun part ↦ match part with
    | .again l _ => l == label || around.contains l
    | _ => false
  if holdsMark then .knot label v else v

theorem opened_list (xs : List Value) : (Value.list xs).opened = .list xs := rfl

theorem opened_table (es : List (Value × Value)) : (Value.table es).opened = .table es := rfl

end Statechart.Value
