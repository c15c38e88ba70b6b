import Statechart.Text.Charset.China
import Statechart.Text.Charset.Japan
import Statechart.Text.Charset.Korea
import Statechart.Text.Charset.Page

/-!
# Switching between sets

Characters of several sets stand on the same seven bits. Sequences of bytes tell which set is meant from there on. They call
for a set, in one of three places; other bytes shift from the first place to the second, or take one character from the third.
-/

set_option autoImplicit false
set_option relaxedAutoImplicit false

namespace Statechart.Text.Charset.Switch

inductive Code where
  /-- Braces behind a wave switch. -/
  | braces
  | korea
  | japan
  | japanFirst
  | japanSecond
  | japanThird
  | japanLater
  | japanMore
deriving DecidableEq, Repr

/-! ### Braces -/

def bracesPiece (main : Grid) (isWide : Bool) (a : Nat) (rest : List Nat) : Piece × Bool :=
  if a == 0x7E then
    match rest with
    | [] => (none, isWide)
    | b :: _ =>
      if isWide then if b == 0x7D then (some ([], 1), false) else (.lost, isWide)
      else if b == 0x7E then (some ([some '~'], 1), isWide)
      else if b == 0x7B then (some ([], 1), true)
      else if b == 0x0A then (some ([], 1), isWide)
      else (.lost, isWide)
  else if 128 ≤ a then (.lost, isWide)
  else if isWide then (byPairs (fun _ ↦ none) (fun a b ↦ one (main.at? a b)) a rest, isWide)
  else (some ([some (Char.ofNat a)], 0), isWide)

/-! ### Sequences -/

/-- The last byte of a sequence that calls for a set, and whether the characters of the set take two bytes. -/
abbrev Call := Nat × Bool

/-- The sets that can be called for, as readers of one byte or two, and what else may stand in a text. -/
structure Kit where
  sets : List (Call × (Nat → Nat → Glyphs))
  /-- Bytes shift between the first two places. -/
  shifts : Bool := false
  /-- Single characters are taken from the third place. -/
  third : Bool := false
  /-- A sequence may be announced by another. -/
  announced : Bool := true

def asciiCall : Call := (0x42, false)

def latinCall : Call := (0x41, false)

def greekCall : Call := (0x46, false)

structure State where
  first : Call := asciiCall
  second : Call := asciiCall
  third : Call := asciiCall
  isShifted : Bool := false
  /-- Within a sequence that calls for no set. -/
  isPassing : Bool := false

def isEnd (b : Nat) : Bool := 0x40 ≤ b && b ≤ 0x5A

/-- The number of bytes of a sequence up to its end, from a place on; zero if there are too many, nothing if there is no end. -/
def length? (kit : Kit) (bytes : List Nat) : Nat → Nat → Option Nat
  | 0, _ => some 0
  | fuel + 1, i =>
    if 16 ≤ i then some 0
    else
      match bytes.drop i with
      | [] => none
      | b :: rest =>
        if isEnd b then some (i + 1)
        else length? kit bytes fuel (if kit.announced && b == 0x26 && rest.head? == some 0x40 then i + 3 else i + 1)

/-- The call of a sequence, and the place that it is for. -/
def callOf? (kit : Kit) (bytes : List Nat) : Option (Call × Nat) :=
  match bytes with
  | [_, 0x24, c] => some ((c, true), 0)
  | [_, 0x28, c] => some ((c, false), 0)
  | [_, 0x29, c] => some ((c, false), 1)
  | [_, 0x2E, c] => if kit.third then some ((c, false), 2) else none
  | [_, 0x24, 0x28, c] => some ((c, true), 0)
  | [_, 0x24, 0x29, c] => some ((c, true), 1)
  | [_, _, _, 0x1B, 0x24, 0x42] => if kit.announced then some ((0x42, true), 0) else none
  | _ => none

def State.called (s : State) (call : Call) (place : Nat) : State :=
  match place with
  | 0 => { s with first := call }
  | 1 => { s with second := call }
  | _ => { s with third := call }

/-- One character from the third place; `greek` is the page of Greek. -/
def thirdPiece (greek : Nat → Option Char) (call : Call) (b : Nat) : Piece :=
  let c : Option Char :=
    if call == latinCall then if b < 128 then some (Char.ofNat (b + 128)) else none
    else if call == greekCall then greek (if b < 128 then b + 128 else b - 128)
    else if call == asciiCall then ascii? b
    else none
  some ([c], 2)

/-- A sequence; one that calls for no set of the kit stands for nothing. -/
def sequencePiece (kit : Kit) (s : State) (bytes : List Nat) : Piece × State :=
  match length? kit bytes 16 1 with
  | none => (none, s)
  | some 0 => (.lost, s)
  | some (n + 1) =>
    match callOf? kit (bytes.take (n + 1)) with
    | some (call, place) =>
      if call == asciiCall || (kit.sets.lookup call).isSome then (some ([], n), s.called call place)
      else (some ([none], n), s)
    | none => (some ([none], n), s)

/-- A character of a set. -/
def setPiece (kit : Kit) (call : Call) (a : Nat) (rest : List Nat) : Piece :=
  match kit.sets.lookup call with
  | none => .lost
  | some read =>
    if call.2 then rest.head?.map fun b ↦
      let glyphs := read a b
      (if glyphs.isEmpty then [none] else glyphs, 1)
    else .ofGlyphs (read a 0) 0

def piece (kit : Kit) (greek : Nat → Option Char) (s : State) (a : Nat) (rest : List Nat) : Piece × State :=
  let alone : Piece := some ([some (Char.ofNat a)], 0)
  if s.isPassing then (alone, { s with isPassing := !isEnd a })
  else if a == 0x1B then
    match rest with
    | [] => (none, s)
    | b :: after =>
      if [0x24, 0x26, 0x28, 0x29, 0x2E].contains b then sequencePiece kit s (a :: rest)
      else if kit.third && b == 0x4E then (after.head?.bind (thirdPiece greek s.third), s)
      else (alone, { s with isPassing := true })
  else if kit.shifts && (a == 0x0E || a == 0x0F) then (some ([], 0), { s with isShifted := a == 0x0E })
  else if a == 0x0A then (alone, { s with isShifted := false })
  else if a < 0x20 then (alone, s)
  else if 128 ≤ a then (.lost, s)
  else
    let call := if s.isShifted then s.second else s.first
    (if call == asciiCall then alone else setPiece kit call a rest, s)

/-- The page of Greek, as it was before three signs were added to it. -/
def greek? (page : Array (Option Char)) (b : Nat) : Option Char :=
  if b == 0xA4 || b == 0xA5 || b == 0xAA then none else (page[b]?).join

def pairsOf (grid : Grid) (a b : Nat) : Glyphs := one (grid.at? a b)

def kitOf (code : Code) : Kit :=
  let main := Grid.ofText japanMain
  let base : Call × (Nat → Nat → Glyphs) := ((0x42, true), pairsOf main)
  let old : List (Call × (Nat → Nat → Glyphs)) :=
    [base, ((0x40, true), pairsOf main), ((0x4A, false), fun a _ ↦ one (Japan.roman? a))]
  let rare : Unit → Call × (Nat → Nat → Glyphs) := fun _ ↦ ((0x44, true), pairsOf (Grid.ofText japanSupplement))
  let later (last : Nat) (edition : Japan.Edition) : List (Call × (Nat → Nat → Glyphs)) :=
    let first := Grid.ofText japanFirst
    let second := Grid.ofText japanSecond
    [base, ((last, true), Japan.plane main first edition),
      ((0x50, true), fun a b ↦ one (second.at? a b))]
  match code with
  | .braces => { sets := [] }
  | .korea => { sets := [((0x43, true), pairsOf (Grid.ofText koreaMain))], shifts := true, announced := false }
  | .japan => { sets := old }
  | .japanFirst => { sets := rare () :: old }
  | .japanSecond =>
    { sets := rare () :: old ++ [((0x43, true), pairsOf (Grid.ofText koreaMain)),
        ((0x41, true), pairsOf (Grid.ofText chinaMain)), (latinCall, fun _ _ ↦ []), (greekCall, fun _ _ ↦ [])]
      third := true }
  | .japanThird => { sets := later 0x4F .first }
  | .japanLater => { sets := later 0x51 .second }
  | .japanMore => { sets := rare () :: old ++ [((0x49, false), fun a _ ↦ one (Japan.kana? (a + 128)))] }

def decode (code : Code) (bytes : List Nat) : Glyphs × List Nat :=
  if code == .braces then
    let main := Grid.ofText chinaMain
    inStates (bracesPiece main) false bytes
  else
    let kit := kitOf code
    let page := pageOf ((pageTexts.lookup "iso8859_7").getD "")
    inStates (piece kit (greek? page)) {} bytes

end Statechart.Text.Charset.Switch
