/-!
# Arguments

A command's arguments are options, which begin with a dash, and operands. An option has a long name behind two dashes or
a name of one letter behind one dash; letters can be written together, and a value may follow the letter or, behind `=`,
the long name. Two dashes alone end the options, and a list of arguments can also be read up to the first operand only.
-/

set_option autoImplicit false
set_option relaxedAutoImplicit false

namespace Statechart.CommandLine

/-- An option that a command knows, by all its names. -/
structure OptionSpec where
  names : List String
  takesValue : Bool
deriving DecidableEq, Repr

/-- An option as given, by the first of its names. -/
structure Given where
  name : String
  value : String
deriving DecidableEq, Repr

structure Arguments where
  options : List Given := []
  operands : List String := []
deriving DecidableEq, Repr

namespace OptionSpec

def name (o : OptionSpec) : String := o.names.headD ""

def find? (specs : List OptionSpec) (name : String) : Option OptionSpec :=
  specs.find? fun o ↦ o.names.contains name

end OptionSpec

namespace Arguments

/-- The options in one argument, and the name of the last one if its value has to follow. -/
abbrev Reading := Option (List Given × Option String)

/-- Options of one letter. The rest behind one that takes a value is its value. -/
def readLetters (specs : List OptionSpec) : List Char → Reading
  | [] => some ([], none)
  | c :: rest => do
    let o ← OptionSpec.find? specs (String.ofList ['-', c])
    if !o.takesValue then
      let (given, waiting) ← readLetters specs rest
      return (⟨o.name, ""⟩ :: given, waiting)
    else if rest.isEmpty then return ([], some o.name)
    else return ([⟨o.name, String.ofList rest⟩], none)

/-- An option by its long name. -/
def readLong (specs : List OptionSpec) (cs : List Char) : Reading := do
  let name := cs.takeWhile (· != '=')
  let o ← OptionSpec.find? specs (String.ofList name)
  match cs.drop name.length, o.takesValue with
  | [], false => return ([⟨o.name, ""⟩], none)
  | [], true => return ([], some o.name)
  | _ :: value, true => return ([⟨o.name, String.ofList value⟩], none)
  | _ :: _, false => none

/-- The options in an argument that begins with a dash. -/
def readOption (specs : List OptionSpec) : List Char → Reading
  | '-' :: '-' :: rest => readLong specs ('-' :: '-' :: rest)
  | _ :: letters => readLetters specs letters
  | [] => none

def isOption (arg : String) : Bool := arg.startsWith "-" && arg.length > 1

/-- Arguments with more options in front. -/
def withOptions (given : List Given) (a : Arguments) : Arguments := { a with options := given ++ a.options }

/-- Reads arguments; with `mixed`, options may follow operands. There is no reading where an option is not known, or
has a value that it must not have, or lacks one. -/
def parse (specs : List OptionSpec) (mixed : Bool) : List String → Option Arguments
  | [] => some {}
  | arg :: rest =>
    if arg == "--" then some { operands := rest }
    else if isOption arg then
      match readOption specs arg.toList, rest with
      | none, _ | some (_, some _), [] => none
      | some (given, none), rest => (parse specs mixed rest).map (withOptions given)
      | some (given, some name), value :: rest =>
        (parse specs mixed rest).map (withOptions (given ++ [⟨name, value⟩]))
    else if mixed then
      (parse specs mixed rest).map fun a ↦ { a with operands := arg :: a.operands }
    else some { operands := arg :: rest }

/-- The values of an option, in order. -/
def values (a : Arguments) (name : String) : List String :=
  (a.options.filter fun g ↦ g.name == name).map (·.value)

/-- The last value of an option. -/
def value? (a : Arguments) (name : String) : Option String := (a.values name).getLast?

def has (a : Arguments) (name : String) : Bool := a.options.any fun g ↦ g.name == name

end Arguments

end Statechart.CommandLine
