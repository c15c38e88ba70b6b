import Statechart.Text.Digits

/-!
# Numeric addresses

Hosts that are numbers: four decimal numbers between dots, or eight groups of hexadecimal digits between colons, of which
two colons leave out some, the last two perhaps written as a dotted address.
-/

set_option autoImplicit false
set_option relaxedAutoImplicit false

namespace Statechart.Http.Address

/-- The pieces of a text between marks. -/
def pieces (mark : Char) : List Char → List (List Char)
  | [] => [[]]
  | c :: rest =>
    if c == mark then [] :: pieces mark rest
    else
      match pieces mark rest with
      | [] => [[c]]
      | p :: ps => (c :: p) :: ps

/-- A number up to 255 without zeros in front. -/
def isOctet (cs : List Char) : Bool :=
  !cs.isEmpty && cs.all Char.isDigit && cs.length ≤ 3 && (cs.length == 1 || cs.head? != some '0')
    && (Text.natOfDigits? 10 cs).any (· ≤ 255)

def isDotted (cs : List Char) : Bool :=
  let parts := pieces '.' cs
  parts.length == 4 && parts.all isOctet

/-- Hosts that are taken for dotted addresses. -/
def looksDotted (cs : List Char) : Bool :=
  let parts := pieces '.' cs
  parts.length == 4 && parts.all fun p ↦ !p.isEmpty && p.all Char.isDigit

def isGroup (cs : List Char) : Bool :=
  !cs.isEmpty && cs.length ≤ 4 && cs.all fun c ↦ (Text.hexDigit? c).isSome

/-- The groups of an address; a dotted end counts as two of them. -/
def groups? (cs : List Char) : Option (List (List Char)) :=
  let parts := pieces ':' cs
  match parts.getLast? with
  | some last =>
    if !last.contains '.' then some parts
    else if isDotted last then some (parts.dropLast ++ [['0'], ['0']])
    else none
  | none => none

/-- Whether groups are an address: eight of them, or fewer with one gap. At an end, a gap leaves two empty groups. -/
def areGroups (parts : List (List Char)) : Bool :=
  let inner := (parts.drop 1).dropLast
  let gaps := inner.filter (·.isEmpty)
  let open? := (parts.head?.any (·.isEmpty), parts.getLast?.any (·.isEmpty))
  if parts.length < 3 || parts.length > 9 then false
  else if gaps.length > 1 then false
  else if gaps.isEmpty then parts.length == 8 && parts.all isGroup
  else
    let front := parts.takeWhile (!·.isEmpty)
    let back := (parts.reverse.takeWhile (!·.isEmpty)).reverse
    let frontGood := !open?.1 || (inner.head?.any (·.isEmpty))
    let backGood := !open?.2 || (inner.getLast?.any (·.isEmpty))
    frontGood && backGood && front.length + back.length < 8 && (front ++ back).all isGroup

/-- An address between colons, with a zone behind a percent sign. -/
def isColoned (cs : List Char) : Bool :=
  let zone := cs.dropWhile (· != '%')
  let address := cs.takeWhile (· != '%')
  (zone.isEmpty || (zone.length > 1 && !(zone.drop 1).contains '%'))
    && (groups? address).any areGroups

end Statechart.Http.Address
