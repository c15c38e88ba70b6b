import Statechart.Text.Digits

/-!
# Sets of characters

A set of characters is kept as ranges of code points. It is written as the hexadecimal bounds of its ranges, a range of
one character as that character alone, with blanks or breaks between them.
-/

set_option autoImplicit false
set_option relaxedAutoImplicit false

namespace Statechart.Text

structure CharSet where
  /-- The first and the last code point of each range. -/
  ranges : List (Nat × Nat)
deriving Repr, Inhabited

namespace CharSet

def contains (s : CharSet) (c : Char) : Bool := s.ranges.any fun (low, high) ↦ low ≤ c.toNat && c.toNat ≤ high

/-- The words of a text between blanks and breaks. -/
def words (s : String) : List (List Char) :=
  (s.toList.foldr (fun c out ↦
    if c == ' ' || c == '\n' then [] :: out
    else
      match out with
      | w :: rest => (c :: w) :: rest
      | [] => [[c]]) [[]]).filter fun w ↦ !w.isEmpty

/-- A hexadecimal number. -/
def number (cs : List Char) : Nat := (natOfDigits? 16 cs).getD 0

def rangeOf (word : List Char) : Nat × Nat :=
  let low := word.takeWhile (· != '-')
  match word.drop low.length with
  | [] => (number low, number low)
  | _ :: high => (number low, number high)

/-- The words of a text in groups; a word that ends in a colon heads the words behind it. -/
def groups (s : String) : List (List Char × List (List Char)) :=
  ((words s).foldr (fun w (out, inner) ↦
    if w.getLast? == some ':' then ((w.dropLast, inner) :: out, []) else (out, w :: inner)) ([], [])).1

/-- The set that a text writes down. -/
def ofText (s : String) : CharSet := ⟨(words s).map rangeOf⟩

end CharSet

end Statechart.Text
