/-!
# Paths

A path is a list of names below the root or below a current directory. Its text has no empty names, no `.` and no
slash at its end; `..` is kept, since what it leads to depends on the files.
-/

set_option autoImplicit false
set_option relaxedAutoImplicit false

namespace Statechart

structure Path where
  /-- The slashes at the front: none for a relative path. -/
  root : String := ""
  names : List String
deriving DecidableEq, Repr, Inhabited

namespace Path

/-- The pieces of a text between slashes. -/
def pieces : List Char → List (List Char)
  | [] => [[]]
  | '/' :: rest => [] :: pieces rest
  | c :: rest =>
    match pieces rest with
    | [] => [[c]]
    | p :: ps => (c :: p) :: ps

/-- The root that a text begins with: exactly two slashes are a root of their own. -/
def rootOf (cs : List Char) : String :=
  match (cs.takeWhile (· == '/')).length with
  | 0 => ""
  | 2 => "//"
  | _ => "/"

def ofText (text : String) : Path :=
  let cs := text.toList
  ⟨rootOf cs, ((pieces cs).filter fun p ↦ !p.isEmpty && p != ['.']).map String.ofList⟩

def isAbsolute (p : Path) : Bool := p.root != ""

def text (p : Path) : String :=
  if p.root == "" && p.names.isEmpty then "." else p.root ++ "/".intercalate p.names

/-- A path seen from a directory. -/
def below (directory p : Path) : Path :=
  if p.isAbsolute then p else ⟨directory.root, directory.names ++ p.names⟩

def child (p : Path) (name : String) : Path := ⟨p.root, p.names ++ [name]⟩

/-- The last name. -/
def name (p : Path) : String := p.names.getLast?.getD ""

/-- The end of the last name from its last dot, unless the dot is its first or last character. -/
def suffix (p : Path) : String :=
  let cs := p.name.toList.reverse
  let ending := cs.takeWhile (· != '.')
  if ending.isEmpty || ending.length + 1 ≥ cs.length then ""
  else String.ofList ('.' :: ending.reverse)

/-- The directories above a path, the nearest first. -/
def ancestors (p : Path) : List Path :=
  (List.range p.names.length).reverse.map fun n ↦ ⟨p.root, p.names.take n⟩

end Path

end Statechart
