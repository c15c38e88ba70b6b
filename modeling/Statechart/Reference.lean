import Statechart.Action
import Statechart.Text.Order

/-!
# References to callables

A reference names a callable: an entry of a registry, or else an attribute of a module after the last dot of the
reference. What is found in a module has to be callable; an entry of the registry stands as it is.
-/

set_option autoImplicit false
set_option relaxedAutoImplicit false

namespace Statechart

variable {σ : Type}

/-- A module that can be reached by its full name, or that fails when it is loaded. -/
inductive Module (σ : Type) where
  | attributes (entries : List (String × Callee σ))
  | broken (text : String)

/-- Where references are looked up. -/
structure Scope (σ : Type) where
  registry : List (String × Callee σ) := []
  modules : List (String × Module σ) := []

namespace Scope

/-- How many names a message offers in place of one that was not found. -/
def offered : Nat := 10

/-- The first names in order, separated by commas. -/
def offer (names : List String) : String :=
  ", ".intercalate ((Text.sorted names).take offered)

/-- The parts of a name before and after its last dot. -/
def splitAtLastDot (name : List Char) : Option (List Char × List Char) :=
  match name with
  | [] => none
  | c :: rest =>
    match splitAtLastDot rest with
    | some (before, after) => some (c :: before, after)
    | none => if c == '.' then some ([], rest) else none

/-- A name, then its parent and so on up to the first part. -/
def lineage : Nat → List Char → List (List Char)
  | 0, _ => []
  | fuel + 1, name =>
    match splitAtLastDot name with
    | none => [name]
    | some (parent, _) => name :: lineage fuel parent

/-- Why a module cannot be reached. -/
inductive Unreachable where
  /-- There is no such module. -/
  | absent (text : String)
  | broken (text : String)

/-- What keeps the first module of a lineage from being reached, which is not there itself. -/
def obstacle (modules : List (String × Module σ)) : List String → Unreachable
  | [] => .absent ""
  | [name] => .absent ("No module named " ++ Text.quoted name)
  | name :: parent :: rest =>
    match modules.lookup parent with
    | some (.attributes _) =>
      .absent ("No module named " ++ Text.quoted name ++ "; " ++ Text.quoted parent ++ " is not a package")
    | some (.broken text) => .broken text
    | none => obstacle modules (parent :: rest)

/-- The attributes of a module. -/
def module (modules : List (String × Module σ)) (name : String) :
    Except Unreachable (List (String × Callee σ)) :=
  match modules.lookup name with
  | some (.attributes entries) => .ok entries
  | some (.broken text) => .error (.broken text)
  | none => .error (obstacle modules ((lineage name.length.succ name.toList).map String.ofList))

/-- What every module says about itself. -/
def ownAttributes (name : String) : List (String × Callee σ) :=
  [("__name__", .inert (.text name)), ("__doc__", .inert .null), ("__package__", .inert .null),
    ("__loader__", .inert .null), ("__spec__", .inert .null), ("__dict__", .inert (.table [])),
    ("__annotations__", .inert (.table []))]

/-- What every module can do; none of it takes a context and an event. -/
def ownMethods : List (String × String) :=
  ("__class__", "module") :: ["__delattr__", "__dir__", "__eq__", "__format__", "__ge__", "__getattribute__",
    "__getstate__", "__gt__", "__hash__", "__init__", "__init_subclass__", "__le__", "__lt__", "__ne__", "__new__",
    "__reduce__", "__reduce_ex__", "__repr__", "__setattr__", "__sizeof__", "__str__",
    "__subclasshook__"].map fun name ↦ (name, name)

/-- What a module has of its own. -/
def own? (module name : String) : Option (Callee σ) :=
  match ownMethods.lookup name with
  | some shown => some (.function (some shown) fun _ _ ↦ .error .wrongType)
  | none => (ownAttributes module).lookup name

/-- Names that begin with an underscore are not offered. -/
def isPublic (name : String) : Bool := !name.startsWith "_"

/-- A callable attribute of a module. -/
def callableIn (reference path name : String) (entries : List (String × Callee σ)) : Outcome (Callee σ) :=
  match entries.lookup name <|> own? path name with
  | some (.inert v) =>
    .error (.unresolved reference ("'" ++ name ++ "' is not callable (got " ++ v.kindName ++ ")"))
  | some c => .ok c
  | none => .error (.unresolved reference ("'" ++ name ++ "' not found in '" ++ path ++ "'. Available: "
      ++ offer ((entries.map (·.1)).filter isPublic)))

/-- The reason why a name without a dot that is not registered cannot be resolved. -/
def unknownName (registry : List (String × Callee σ)) : String :=
  "Must be a full module path (e.g., 'myapp.actions.increment')"
    ++ (if registry.isEmpty then "" else " or one of: " ++ offer (registry.map (·.1)))

/-- An attribute of a module. Module paths have to be there and absolute. -/
def resolveIn (modules : List (String × Module σ)) (reference path name : String) : Outcome (Callee σ) :=
  if path == "" then .error .badValue
  else if path.startsWith "." then .error .wrongType
  else
    match module modules path with
    | .ok entries => callableIn reference path name entries
    | .error (.absent text) =>
      .error (.unresolved reference ("Module '" ++ path ++ "' not found: " ++ text))
    | .error (.broken text) =>
      .error (.unresolved reference ("Failed to import '" ++ path ++ "': " ++ text))

/-- What a reference names. -/
def resolve (scope : Scope σ) (reference : String) : Outcome (Callee σ) :=
  match scope.registry.lookup reference with
  | some c => .ok c
  | none =>
    match splitAtLastDot reference.toList with
    | none => .error (.unresolved reference (unknownName scope.registry))
    | some (path, name) =>
      resolveIn scope.modules reference (String.ofList path) (String.ofList name)

end Scope

end Statechart
