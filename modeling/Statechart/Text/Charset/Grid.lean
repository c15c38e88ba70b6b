import Statechart.Text.CharSet
import Statechart.Text.Charset.Unicode

/-!
# Characters of two bytes

A grid gives pairs of bytes characters. It is written in words: the number of a pair, and behind a colon the characters of
that pair and the ones that follow it, with a point where there is none, or behind a sign of equality the bounds of a range
of code points. Bytes are read in pieces, each of one byte at least.
-/

set_option autoImplicit false
set_option relaxedAutoImplicit false

namespace Statechart.Text.Charset

structure Grid where
  /-- The first pair of each run of characters, as a number, and the characters. -/
  runs : List (Nat × Array (Option Char))
deriving Inhabited

namespace Grid

def runOf (word : List Char) : Nat × Array (Option Char) :=
  let first := word.takeWhile fun c ↦ c != ':' && c != '='
  let glyphs : Glyphs :=
    match word.drop first.length with
    | ':' :: cs => cs.map fun c ↦ if c == '.' then none else some c
    | _ :: range =>
      let (low, high) := CharSet.rangeOf range
      (List.range (high + 1 - low)).map fun i ↦ some (Char.ofNat (low + i))
    | [] => []
  (CharSet.number first, glyphs.toArray)

def ofText (s : String) : Grid := ⟨(CharSet.words s).map runOf⟩

/-- The character of two bytes. -/
def at? (grid : Grid) (a b : Nat) : Option Char :=
  let n := a * 256 + b
  grid.runs.findSome? fun (first, glyphs) ↦ if first ≤ n then (glyphs[n - first]?).join else none

/-- The character of two bytes that are both greater by 128. -/
def above? (grid : Grid) (a b : Nat) : Option Char := if 128 ≤ a && 128 ≤ b then grid.at? (a - 128) (b - 128) else none

def chars (grid : Grid) : List Char := grid.runs.flatMap fun run ↦ run.2.toList.filterMap id

/-- The characters between two code points that a grid does not have, in order. -/
def missing (grid : Grid) (low high : Nat) : Array Char :=
  let found := grid.chars.foldl (fun found c ↦ if low ≤ c.toNat then found.setIfInBounds (c.toNat - low) true else found)
    (Array.replicate (high + 1 - low) false)
  found.mapIdx (fun i isFound ↦ if isFound then none else some (Char.ofNat (low + i))) |>.filterMap id

end Grid

/-- What some bytes stand for, and how many there are behind the first; or nothing as long as they are unfinished. -/
abbrev Piece := Option (Glyphs × Nat)

namespace Piece

/-- Nothing stands for one byte. -/
def lost : Piece := some ([none], 0)

/-- Some bytes that stand for something, or else one of them for nothing. -/
def ofGlyphs (glyphs : Glyphs) (more : Nat) : Piece := if glyphs.isEmpty then lost else some (glyphs, more)

end Piece

/-- Reads bytes piece by piece, in states that pieces change: what stands for them, and an unfinished piece at their end. -/
def inStates {σ : Type} (piece : σ → Nat → List Nat → Piece × σ) : σ → List Nat → Glyphs × List Nat
  | _, [] => ([], [])
  | state, b :: rest =>
    match piece state b rest with
    | (none, _) => ([], b :: rest)
    | (some (glyphs, more), next) =>
      let (after, left) := inStates piece next (rest.drop more)
      (glyphs ++ after, left)
termination_by _ bytes => bytes.length
decreasing_by simp only [List.length_drop, List.length_cons]; omega

def inPieces (piece : Nat → List Nat → Piece) (bytes : List Nat) : Glyphs × List Nat :=
  inStates (fun _ b rest ↦ (piece b rest, ())) () bytes

/-- A character if there is one. -/
def one (c : Option Char) : Glyphs := if c.isSome then [c] else []

/-- A character of one byte, or what a pair stands for. -/
def byPairs (alone : Nat → Option Char) (pair : Nat → Nat → Glyphs) (b : Nat) (rest : List Nat) : Piece :=
  match alone b, rest with
  | some c, _ => some ([some c], 0)
  | none, [] => none
  | none, c :: _ => .ofGlyphs (pair b c) 1

def ascii? (b : Nat) : Option Char := if b < 128 then some (Char.ofNat b) else none

end Statechart.Text.Charset
