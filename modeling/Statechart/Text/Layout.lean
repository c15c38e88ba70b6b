import Statechart.Failure
import Statechart.Text.Digits

/-!
# Layouts of fields

A layout says how a value is written into a field: fill and alignment, sign, width, grouping of digits, precision
and the kind of writing. `Layout.read` reads one from its text; `Layout.pad` and `Layout.number` apply it.
-/

set_option autoImplicit false
set_option relaxedAutoImplicit false

namespace Statechart.Text

structure Layout where
  fill : Char := ' '
  align : Char
  sign : Option Char := none
  /-- A zero has no sign after rounding. -/
  unsignedZero : Bool := false
  alternate : Bool := false
  width : Nat := 0
  separator : Option Char := none
  precision : Option Nat := none
  kind : Option Char := none
deriving Repr

namespace Layout

def isAlign (c : Char) : Bool := c == '<' || c == '>' || c == '=' || c == '^'

/-- The number at the front, with `none` if there is no digit. -/
def readNumber (cs : List Char) : Option Nat × List Char :=
  let digits := cs.takeWhile fun c ↦ (digit? c).isSome
  if digits.isEmpty then (none, cs)
  else (some (digits.foldl (fun n c ↦ 10 * n + (digit? c).getD 0) 0), cs.drop digits.length)

/-- Widths and precisions are signed numbers of 64 bits. -/
def numberLimit : Nat := Nat.pow 2 63 - 1

/-- No text is as wide as this. -/
def widthLimit : Nat := Nat.pow 2 40

/-- The character if it stands at the front and is one of those accepted. -/
def readOne (accept : Char → Bool) : List Char → Option Char × List Char
  | c :: rest => if accept c then (some c, rest) else (none, c :: rest)
  | [] => (none, [])

/-- A fill with an alignment, or an alignment alone. -/
def readAlign : List Char → Option Char × Option Char × List Char
  | c :: d :: rest =>
    if isAlign d then (some c, some d, rest)
    else if isAlign c then (none, some c, d :: rest)
    else (none, none, c :: d :: rest)
  | [c] => if isAlign c then (none, some c, []) else (none, none, [c])
  | [] => (none, none, [])

/-- The separator of groups of digits. -/
def readSeparator (cs : List Char) : Outcome (Option Char × List Char) :=
  let (comma, cs) := readOne (· == ',') cs
  let (underscore, cs) := readOne (· == '_') cs
  match comma, underscore, (readOne (· == ',') cs).1 with
  | some _, some _, _ => .error .badValue
  | none, some _, some _ => .error .badValue
  | some c, none, _ => .ok (some c, cs)
  | none, u, _ => .ok (u, cs)

def readPrecision : List Char → Outcome (Option Nat × List Char)
  | '.' :: cs =>
    match readNumber cs with
    | (some n, rest) => .ok (some n, rest)
    | (none, _) => .error .badValue
  | cs => .ok (none, cs)

/-- Whether digits of this kind of writing can be grouped by a separator. -/
def allowsSeparator (separator : Char) : Option Char → Bool
  | none => true
  | some k => "deEfFgG%".contains k || (separator == '_' && "boxX".contains k)

/-- The layout that a text asks for, given the alignment where the text has none. -/
def read (defaultAlign : Char) (cs : List Char) : Outcome Layout := do
  let (fill, align, cs) := readAlign cs
  let (sign, cs) := readOne (fun c ↦ c == '+' || c == '-' || c == ' ') cs
  let (z, cs) := readOne (· == 'z') cs
  let (alternate, cs) := readOne (· == '#') cs
  let (zeroFill, cs) := if fill.isNone then readOne (· == '0') cs else (none, cs)
  let (width, cs) := readNumber cs
  if width.any (· > numberLimit) then throw .badValue
  if width.any (· > widthLimit) then throw (.plain .outOfMemory)
  let (separator, cs) ← readSeparator cs
  let (precision, cs) ← readPrecision cs
  if precision.any (· > numberLimit) then throw .badValue
  let kind ← match cs with
    | [] => pure none
    | [k] => pure (some k)
    | _ => throw .badValue
  match separator with
  | some s => if allowsSeparator s kind then pure () else throw .badValue
  | none => pure ()
  let defaultAlign := if zeroFill.isSome && defaultAlign == '>' then '=' else defaultAlign
  return {
    fill := (fill.or zeroFill).getD ' '
    align := align.getD defaultAlign
    sign := sign
    unsignedZero := z.isSome
    alternate := alternate.isSome
    width := width.getD 0
    separator := separator
    precision := precision
    kind := kind }

/-- Text filled up to the width. -/
def pad (l : Layout) (cs : List Char) : List Char :=
  let room := l.width - cs.length
  let left := if l.align == '>' then room else if l.align == '^' then room / 2 else 0
  List.replicate left l.fill ++ cs ++ List.replicate (room - left) l.fill

/-- Digits, last first, in groups with a separator between them, zeros added up to a width. -/
def group (size : Nat) (separator : Char) : Nat → List Char → Nat → List Char
  | 0, digits, _ => digits
  | fuel + 1, digits, width =>
    let count := min size (max (max digits.length width) 1)
    let part := digits.take count
    let filled := part ++ List.replicate (count - part.length) '0'
    let rest := digits.drop count
    if rest.isEmpty && width ≤ count then filled
    else filled ++ separator :: group size separator fuel rest (width - count - 1)

def grouped (l : Layout) (digits : List Char) (width : Nat) : List Char :=
  if digits.isEmpty then []
  else match l.separator with
    | none => List.replicate (width - digits.length) '0' ++ digits
    | some s =>
      let size := if (l.kind.map ("boxX".contains ·)).getD false then 4 else 3
      (group size s (digits.length + width + 1) digits.reverse width).reverse

/-- A number from its sign, the mark of its base, its leading digits and what follows them. -/
def number (l : Layout) (negative : Bool) (mark digits rest : List Char) : List Char :=
  let sign := if negative then ['-'] else match l.sign with
    | some '+' => ['+']
    | some ' ' => [' ']
    | _ => []
  let inner := if l.fill == '0' && l.align == '=' then
      l.width - (sign.length + mark.length + rest.length) else 0
  let body := l.grouped digits inner
  let room := l.width - (sign.length + mark.length + body.length + rest.length)
  let left := if l.align == '>' then room else if l.align == '^' then room / 2 else 0
  let middle := if l.align == '=' then room else 0
  List.replicate left l.fill ++ sign ++ mark ++ List.replicate middle l.fill ++ body ++ rest
    ++ List.replicate (room - left - middle) l.fill

end Layout

end Statechart.Text
