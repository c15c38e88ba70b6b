import Statechart.Failure
import Statechart.Http.Address
import Statechart.Http.Label
import Statechart.Http.Percent
import Statechart.Text.Letters

/-!
# Hosts

A host is a numeric address or a name. Names in ASCII are taken as they are, any other is checked and written in ASCII;
a name whose first label is a code is read by what it stands for.
-/

set_option autoImplicit false
set_option relaxedAutoImplicit false

namespace Statechart.Http

namespace HostName

/-- Dots of several scripts stand between labels. -/
def plainDots (cs : List Char) : List Char :=
  cs.map fun c ↦ if c == '\u3002' || c == '\uFF0E' || c == '\uFF61' then '.' else c

def lengthLimit : Nat := 254

/-- Takes the labels of a name one by one; a dot may end the name. -/
def mapLabels (f : List Char → Except NameFlaw (List Char)) (name : List Char) : Except NameFlaw (List Char) := do
  if lengthLimit < name.length then throw .longName
  let labels := Address.pieces '.' (plainDots name)
  if labels == [[]] then throw .emptyName
  let ended := labels.getLast? == some []
  let labels ← (if ended then labels.dropLast else labels).mapM f
  return ['.'].intercalate (if ended then labels ++ [[]] else labels)

/-- A name in ASCII. -/
def encode (name : List Char) : Except NameFlaw (List Char) := do
  let written ← mapLabels Label.encode name
  if (if written.getLast? == some '.' then lengthLimit else lengthLimit - 1) < written.length then throw .longName
  return written

/-- What a name in ASCII stands for. -/
def decode (name : List Char) : Except NameFlaw (List Char) := mapLabels Label.decode name

end HostName

namespace NameFlaw

def fault : NameFlaw → Fault
  | .letter _ _ _ => .badLetter
  | .joiner _ _ _ | .context _ _ _ => .badContext
  | .unknownDirection _ _ | .firstDirection _ | .direction _ _ | .mixedNumbers | .lastDirection => .badDirection
  | _ => .badName

def failure (flaw : NameFlaw) : Failure := .foreign flaw.fault flaw.text

end NameFlaw

def invalidUrl {α : Type} (text : String) : Outcome α := .error (.foreign .badUrl text)

namespace Host

/-- The form of a host. -/
def normalize (host : String) : Outcome String :=
  let cs := host.toList
  if cs.isEmpty then .ok ""
  else if Address.looksDotted cs then
    if Address.isDotted cs then .ok host else invalidUrl ("Invalid IPv4 address: " ++ Text.quoted host)
  else if cs.head? == some '[' && cs.getLast? == some ']' then
    let inner := (cs.drop 1).dropLast
    if Address.isColoned inner then .ok (String.ofList inner)
    else invalidUrl ("Invalid IPv6 address: " ++ Text.quoted host)
  else
    let lower := (Text.lower host).toList
    if cs.all (·.toNat < 0x80) then .ok (String.ofList (Percent.encode Percent.hostSafe lower))
    else
      match HostName.encode lower with
      | .ok name => .ok (String.ofList name)
      | .error _ => invalidUrl ("Invalid IDNA hostname: " ++ Text.quoted host)

/-- A host as it is read: a name that begins with a code by what it stands for. -/
def read (host : String) : Outcome String :=
  let cs := host.toList
  if Label.sign.isPrefixOf cs then
    match HostName.decode cs with
    | .ok name => .ok (String.ofList name)
    | .error flaw => .error flaw.failure
  else .ok host

end Host

end Statechart.Http
