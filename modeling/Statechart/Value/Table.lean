import Statechart.Value.Same

/-!
# Ordered tables

Entries stand in the order in which their keys first came. Writing under a present key changes its value
and leaves key and place.
-/

set_option autoImplicit false
set_option relaxedAutoImplicit false

namespace Statechart

namespace Entries

variable {α : Type}

/-- The value under a key, in any list of entries with dynamic keys. -/
def find? (entries : List (Value × α)) (key : Value) : Option α :=
  (entries.find? fun e ↦ e.1.alike key).map (·.2)

def contains (entries : List (Value × α)) (key : Value) : Bool :=
  entries.any fun e ↦ e.1.alike key

/-- Writes a value under a key. -/
def insert (entries : List (Value × α)) (key : Value) (value : α) : List (Value × α) :=
  match entries with
  | [] => [(key, value)]
  | (k, v) :: rest => if k.alike key then (k, value) :: rest else (k, v) :: insert rest key value

/-- Writes entries one after the other. -/
def overlay (entries patch : List (Value × α)) : List (Value × α) :=
  patch.foldl (fun es e ↦ insert es e.1 e.2) entries

/-- Entries in the order given, later ones written over earlier ones of the same key. -/
def ofList (entries : List (Value × α)) : List (Value × α) := overlay [] entries

def keys (entries : List (Value × α)) : List Value := entries.map (·.1)

/-- The value under a text key. -/
def get? (entries : List (Value × α)) (key : String) : Option α := find? entries (.text key)

/-- A new key goes to the end. -/
theorem insert_of_not_contains (entries : List (Value × α)) (key : Value) (value : α)
    (h : contains entries key = false) : insert entries key value = entries ++ [(key, value)] := by
  induction entries with
  | nil => rfl
  | cons e rest ih =>
    obtain ⟨k, v⟩ := e
    have hk : k.alike key = false := by
      simp only [contains, List.any_cons, Bool.or_eq_false_iff] at h
      exact h.1
    have hrest : contains rest key = false := by
      simp only [contains, List.any_cons, Bool.or_eq_false_iff] at h
      simpa [contains] using h.2
    simp [insert, hk, ih hrest]

end Entries

end Statechart
