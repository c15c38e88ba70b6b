import Statechart.Value.Basic

/-!
# Placeholders

A placeholder is a name between `${` and the next closing brace. In every text of a nested value placeholders are
replaced by the values of variables; what is put in is not looked at again, and a variable that is not set leaves its
placeholder as it is.
-/

set_option autoImplicit false
set_option relaxedAutoImplicit false

namespace Statechart

/-- Variables with their values. -/
abbrev Environment := List (String × String)

namespace Placeholder

/-- A part of a text. -/
inductive Piece where
  | plain (c : Char)
  | variable (name : List Char)
deriving DecidableEq, Repr

/-- The name of a placeholder whose opening brace was just passed, and what follows it. -/
def name? (cs : List Char) : Option (List Char × List Char) :=
  match cs.dropWhile (· != '\x7d') with
  | [] => none
  | _ :: rest =>
    if (cs.takeWhile (· != '\x7d')).isEmpty then none
    else some (cs.takeWhile (· != '\x7d'), rest)

theorem length_lt_of_name? {cs name rest : List Char} (h : name? cs = some (name, rest)) :
    rest.length < cs.length := by
  unfold name? at h
  split at h
  · simp at h
  · rename_i c after hd
    have hlen := (List.dropWhile_suffix (fun x : Char ↦ x != '\x7d') (l := cs)).length_le
    rw [hd, List.length_cons] at hlen
    split at h
    · simp at h
    · simp only [Option.some.injEq, Prod.mk.injEq] at h
      rw [← h.2]
      omega

/-- The placeholders of a text and the characters between them, from left to right. -/
def pieces (cs : List Char) : List Piece :=
  match cs with
  | [] => []
  | '$' :: '\x7b' :: rest =>
    match h : name? rest with
    | some (name, after) =>
      have := length_lt_of_name? h
      .variable name :: pieces after
    | none => .plain '$' :: pieces ('\x7b' :: rest)
  | c :: rest => .plain c :: pieces rest
termination_by cs.length

/-- A placeholder as it is written. -/
def written (name : List Char) : List Char := '$' :: '\x7b' :: name ++ ['\x7d']

def fill (env : Environment) : Piece → List Char
  | .plain c => [c]
  | .variable name =>
    match env.lookup (String.ofList name) with
    | some v => v.toList
    | none => written name

def expandText (env : Environment) (s : String) : String :=
  String.ofList ((pieces s.toList).flatMap (fill env))

/-- The placeholders of a text whose variables are not set. -/
def unset (env : Environment) (s : String) : List String :=
  (pieces s.toList).filterMap fun p ↦
    match p with
    | .plain _ => none
    | .variable name =>
      if (env.lookup (String.ofList name)).isSome then none else some (String.ofList (written name))

mutual

/-- Expands the texts of tables and lists; keys and all other values stay. -/
def expand (env : Environment) (v : Value) : Value :=
  match v with
  | .text s => .text (expandText env s)
  | .list xs => .list (expandAll env xs)
  | .table es => .table (expandEntries env es)
  | v => v
termination_by structural v

def expandAll (env : Environment) (vs : List Value) : List Value :=
  match vs with
  | [] => []
  | v :: rest => expand env v :: expandAll env rest
termination_by structural vs

def expandEntries (env : Environment) (es : List (Value × Value)) : List (Value × Value) :=
  match es with
  | [] => []
  | e :: rest => expandEntry env e :: expandEntries env rest
termination_by structural es

def expandEntry (env : Environment) (e : Value × Value) : Value × Value :=
  match e with
  | (k, v) => (k, expand env v)
termination_by structural e

end

mutual

/-- The placeholders of a value whose variables are not set, in order. -/
def unsetIn (env : Environment) (v : Value) : List String :=
  match v with
  | .text s => unset env s
  | .list xs => unsetInAll env xs
  | .table es => unsetInEntries env es
  | _ => []
termination_by structural v

def unsetInAll (env : Environment) (vs : List Value) : List String :=
  match vs with
  | [] => []
  | v :: rest => unsetIn env v ++ unsetInAll env rest
termination_by structural vs

def unsetInEntries (env : Environment) (es : List (Value × Value)) : List String :=
  match es with
  | [] => []
  | e :: rest => unsetInEntry env e ++ unsetInEntries env rest
termination_by structural es

def unsetInEntry (env : Environment) (e : Value × Value) : List String :=
  match e with
  | (_, v) => unsetIn env v
termination_by structural e

end

end Placeholder

end Statechart
