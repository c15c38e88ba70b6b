import Statechart.Number.Numeral
import Statechart.Value.Basic

/-!
# Scalars of YAML

A plain scalar without a tag gets one from its text: truth values, integers in several bases, numbers, dates, null,
and the marks for merging and for a default value. `Scalar.value?` then gives the value that a text has under a tag.
-/

set_option autoImplicit false
set_option relaxedAutoImplicit false

namespace Statechart.Yaml

/-- The tags of the standard types. -/
inductive Kind where
  | null
  | bool
  | int
  | float
  | binary
  | timestamp
  | omap
  | pairs
  | set
  | str
  | seq
  | map
  | merge
  | value
  /-- Any other tag. -/
  | other
deriving DecidableEq, Repr, Inhabited

namespace Kind

def names : List (String × Kind) :=
  [("null", .null), ("bool", .bool), ("int", .int), ("float", .float), ("binary", .binary),
    ("timestamp", .timestamp), ("omap", .omap), ("pairs", .pairs), ("set", .set), ("str", .str),
    ("seq", .seq), ("map", .map), ("merge", .merge), ("value", .value)]

/-- What the handle of the standard types stands for. -/
def standard : String := "tag:yaml.org,2002:"

def ofTag (tag : String) : Kind :=
  match names.find? fun n ↦ standard ++ n.1 == tag with
  | some (_, k) => k
  | none => .other

end Kind

namespace Scalar

/-! ### Shapes -/

def boolWords : List (String × Bool) :=
  [("yes", true), ("no", false), ("true", true), ("false", false), ("on", true), ("off", false)]

/-- A word in lower case, in upper case or with a capital. -/
def isWordForm (word : String) (cs : List Char) : Bool :=
  let lower := word.toList
  let upper := lower.map Char.toUpper
  cs == lower || cs == upper || cs == upper.take 1 ++ lower.drop 1

def isBool (cs : List Char) : Bool := boolWords.any fun w ↦ isWordForm w.1 cs

def isNull (cs : List Char) : Bool := cs.isEmpty || cs == ['~'] || isWordForm "null" cs

def unsigned : List Char → List Char
  | '-' :: rest => rest
  | '+' :: rest => rest
  | cs => cs

def isSign (c : Char) : Bool := c == '-' || c == '+'

def isDigitOrLine (c : Char) : Bool := c.isDigit || c == '_'

/-- Parts of sixty behind colons: each one or two digits, below sixty; at least one of them. -/
def isSixties : List (List Char) → Bool
  | [] => false
  | parts => parts.all fun p ↦
    match p with
    | [d] => d.isDigit
    | [t, d] => '0' ≤ t && t ≤ '5' && d.isDigit
    | _ => false

def splitOn (mark : Char) (cs : List Char) : List (List Char) :=
  cs.foldr (fun c parts ↦
    if c == mark then [] :: parts
    else match parts with
      | [] => [[c]]
      | p :: rest => (c :: p) :: rest) [[]]

def isInt (cs : List Char) : Bool :=
  match unsigned cs with
  | '0' :: 'b' :: rest => !rest.isEmpty && rest.all fun c ↦ c == '0' || c == '1' || c == '_'
  | '0' :: 'x' :: rest => !rest.isEmpty && rest.all fun c ↦ (Text.hexDigit? c).isSome || c == '_'
  | '0' :: rest => rest.all fun c ↦ ('0' ≤ c && c ≤ '7') || c == '_'
  | c :: rest =>
    c.isDigit && (match splitOn ':' rest with
      | [digits] => digits.all isDigitOrLine
      | digits :: parts => digits.all isDigitOrLine && isSixties parts
      | [] => false)
  | [] => false

/-- An exponent, which has to have a sign, or nothing. -/
def isExponentOrNone : List Char → Bool
  | [] => true
  | e :: s :: rest => (e == 'e' || e == 'E') && isSign s && !rest.isEmpty && rest.all Char.isDigit
  | _ => false

def isFloat (cs : List Char) : Bool :=
  match cs with
  | '.' :: rest =>
    (rest.head?.any Char.isDigit && isExponentOrNone (rest.dropWhile isDigitOrLine))
      || isWordForm "inf" rest || rest == "Inf".toList || rest == "nan".toList || rest == "NaN".toList
      || rest == "NAN".toList
  | _ =>
    match unsigned cs with
    | '.' :: rest => isWordForm "inf" rest
    | c :: rest =>
      c.isDigit && (
        let whole := rest.takeWhile isDigitOrLine
        match rest.drop whole.length with
        | '.' :: part => isExponentOrNone (part.dropWhile isDigitOrLine)
        | ':' :: part =>
          let sixties := part.takeWhile (· != '.')
          (match part.drop sixties.length with
            | _ :: digits => digits.all isDigitOrLine
            | [] => false) && isSixties (splitOn ':' sixties)
        | _ => false)
    | [] => false

/-! ### Dates -/

def number? (least most : Nat) (cs : List Char) : Option (Nat × List Char) :=
  let digits := (cs.takeWhile Char.isDigit).take most
  if digits.length < least then none else some (Numeral.natOf digits, cs.drop digits.length)

def mark? (mark : Char) : List Char → Option (List Char)
  | c :: rest => if c == mark then some rest else none
  | [] => none

/-- A distance from universal time: a `Z`, or a sign with hours and perhaps minutes. -/
def offset? (cs : List Char) : Option (Option Int) :=
  match cs.dropWhile fun c ↦ c == ' ' || c == '\t' with
  | [] => if cs.isEmpty then some none else none
  | ['Z'] => some (some 0)
  | s :: rest => do
    if !isSign s then none
    else
      let (hours, rest) ← number? 1 2 rest
      let minutes ← match rest with
        | [] => some 0
        | ':' :: rest =>
          match number? 2 2 rest with
          | some (m, []) => some m
          | _ => none
        | _ => none
      let seconds : Int := hours * 3600 + minutes * 60
      some (some (if s == '-' then -seconds else seconds))

/-- The fields of a date with a time of day behind it. -/
def clock? (cs : List Char) : Option ClockTime := do
  let (hour, rest) ← number? 1 2 cs
  let (minute, rest) ← number? 2 2 (← mark? ':' rest)
  let (second, rest) ← number? 2 2 (← mark? ':' rest)
  let (fraction, rest) := match rest with
    | '.' :: rest => (rest.takeWhile Char.isDigit, rest.dropWhile Char.isDigit)
    | rest => ([], rest)
  let digits := fraction.take 6
  let micro := Numeral.natOf (digits ++ List.replicate (6 - digits.length) '0')
  let offset ← offset? rest
  return ⟨hour, minute, second, micro, offset⟩

/-- The fields of a date, which may be out of range, and of a time of day. -/
def moment? (cs : List Char) : Option Moment := do
  let (year, rest) ← number? 4 4 cs
  let (month, rest) ← number? 1 2 (← mark? '-' rest)
  let (day, rest) ← number? 1 2 (← mark? '-' rest)
  match rest with
  | [] => return .date ⟨year, month, day⟩
  | c :: after =>
    if c == 'T' || c == 't' then return .both ⟨year, month, day⟩ (← clock? after)
    else if c == ' ' || c == '\t' then
      return .both ⟨year, month, day⟩ (← clock? (after.dropWhile fun c ↦ c == ' ' || c == '\t'))
    else none

/-- A plain date has two digits for month and day; before a time of day one is enough. -/
def isTimestamp (cs : List Char) : Bool :=
  match moment? cs with
  | some (.date _) => cs.length == 10
  | some _ => true
  | none => false

/-- A single break at the end does not count when the kind of a text is looked for. -/
def withoutLastBreak (cs : List Char) : List Char :=
  match cs with
  | _ :: _ :: _ => if cs.getLast? == some '\n' then cs.dropLast else cs
  | cs => cs

/-- The kind of a plain scalar without a tag. -/
def plainKind (text : List Char) : Kind :=
  let cs := withoutLastBreak text
  if isBool cs then .bool
  else if isFloat cs then .float
  else if isInt cs then .int
  else if cs == ['<', '<'] then .merge
  else if isNull cs then .null
  else if isTimestamp cs then .timestamp
  else if cs == ['='] then .value
  else if [['!'], ['&'], ['*']].contains cs then .other
  else .str

/-! ### Values -/

def withoutLines (cs : List Char) : List Char := cs.filter (· != '_')

/-- A decimal digit of any script counts like the one of ASCII. -/
def asciiDigit (c : Char) : Char :=
  match Text.digit? c with
  | some d => Nat.digitChar d
  | none => c

/-- The letter that marks a base behind a zero. -/
def baseMark? : Nat → Option Char
  | 2 => some 'b'
  | 8 => some 'o'
  | 16 => some 'x'
  | _ => none

def withoutBaseMark (base : Nat) : List Char → List Char
  | '0' :: c :: rest => if some c.toLower == baseMark? base then rest else '0' :: c :: rest
  | cs => cs

/-- The value of digits in a base, which may have a sign and a mark of their own and blanks around them. -/
def intInBase? (base : Nat) (cs : List Char) : Option Int :=
  let cs := (Text.trimChars cs).map asciiDigit
  let negative := cs.head? == some '-'
  let digits := withoutBaseMark base (unsigned cs)
  if base == 10 && Numeral.digitLimit < digits.length then none
  else (Text.natOfDigits? base digits).map fun n ↦ if negative then -(n : Int) else n

def int? (cs : List Char) : Option Int := do
  let cs := withoutLines cs
  let negative := cs.head? == some '-'
  let signed (i : Int) : Int := if negative then -i else i
  let cs := unsigned cs
  if cs == ['0'] then return 0
  match cs with
  | '0' :: 'b' :: rest => return signed (← intInBase? 2 rest)
  | '0' :: 'x' :: rest => return signed (← intInBase? 16 rest)
  | '0' :: _ => return signed (← intInBase? 8 cs)
  | _ =>
    let parts ← (splitOn ':' cs).mapM (intInBase? 10)
    return signed (parts.foldl (fun n p ↦ 60 * n + p) 0)

/-- Why a text has no value under a tag. -/
inductive Fault where
  | malformed
  | badValue
  | missingKey
  | missingAttribute
  /-- A number without any character. -/
  | outOfRange
  /-- A number that is too large. -/
  | overflow
deriving DecidableEq, Repr

def orElse {α : Type} (o : Option α) (f : Fault) : Except Fault α :=
  match o with
  | some a => .ok a
  | none => .error f

/-- The sum of parts of sixty, the last one first; powers of sixty have to be in the range of numbers. -/
def sumOfSixties (sum : Double) (base : Nat) : List Double → Except Fault Double
  | [] => .ok sum
  | d :: rest =>
    match Double.ofInt? base with
    | none => .error .overflow
    | some b => sumOfSixties (sum.add (d.mul b)) (60 * base) rest

/-- What is not a number, under its own name: all that are written so are one. -/
def sharedNaN : Double := .nanOf 1

def float (cs : List Char) : Except Fault Double := do
  let cs := (withoutLines cs).map Char.toLower
  let negative := cs.head? == some '-'
  let cs := unsigned cs
  if cs == ".inf".toList then return Double.infinity negative
  if cs == ".nan".toList then return sharedNaN
  let signed (d : Double) : Double := if negative then d.mul (Double.ofDecimal true 1 0) else d
  match splitOn ':' cs with
  | [one] => return signed (← orElse (Numeral.double? (String.ofList one)) .badValue)
  | parts =>
    let numbers ← orElse (parts.mapM fun p ↦ Numeral.double? (String.ofList p)) .badValue
    return signed (← sumOfSixties Double.zero 1 numbers.reverse)

def base64Digit? (c : Char) : Option Nat :=
  let n := c.toNat
  if 'A' ≤ c && c ≤ 'Z' then some (n - 65)
  else if 'a' ≤ c && c ≤ 'z' then some (n - 71)
  else if c.isDigit then some (n + 4)
  else if c == '+' then some 62
  else if c == '/' then some 63
  else none

/-- The bytes of digits of base 64, four of which make three bytes. Other characters are passed over; fillings end the
text where they complete a group of four, and are passed over elsewhere. `place` digits of the current group were read,
`left` is what is not used of the last one, and `fillings` follow it. -/
def base64 (place left fillings : Nat) : List Char → Option (List UInt8)
  | [] => if place == 0 then some [] else none
  | c :: rest =>
    if c == '=' then
      if place < 2 then base64 place left fillings rest
      else if 4 ≤ place + fillings + 1 then some []
      else base64 place left (fillings + 1) rest
    else
      match base64Digit? c with
      | none => base64 place left fillings rest
      | some d =>
        match place with
        | 0 => base64 1 d 0 rest
        | 1 => (base64 2 (d % 16) 0 rest).map (UInt8.ofNat (left * 4 + d / 16) :: ·)
        | 2 => (base64 3 (d % 4) 0 rest).map (UInt8.ofNat (left * 16 + d / 4) :: ·)
        | _ => (base64 0 0 0 rest).map (UInt8.ofNat (left * 64 + d) :: ·)

/-- The bytes that a text of digits of base 64 stands for. -/
def binary? (cs : List Char) : Option (List UInt8) :=
  if cs.any fun c ↦ 127 < c.toNat then none else base64 0 0 0 cs

/-- The offset is less than a day. -/
def isValidOffset (t : ClockTime) : Bool :=
  match t.offset with
  | some o => o.natAbs < 86400
  | none => true

/-- The value that a text has under the tag of a standard type. -/
def value (kind : Kind) (text : String) : Except Fault Value :=
  let cs := text.toList
  match kind with
  | .null => .ok .null
  | .bool => (orElse (boolWords.lookup (String.ofList (cs.map Char.toLower))) .missingKey).map .bool
  | .int =>
    if (unsigned (withoutLines cs)).isEmpty then .error .outOfRange
    else (orElse (int? cs) .badValue).map .int
  | .float =>
    if (withoutLines cs).isEmpty then .error .outOfRange
    else (float cs).map .float
  | .binary => (orElse (binary? cs) .malformed).map .bytes
  | .timestamp =>
    match moment? (withoutLastBreak cs) with
    | none => .error .missingAttribute
    | some (.date d) => if d.isValid then .ok (.moment (.date d)) else .error .badValue
    | some (.both d t) =>
      if d.isValid && t.isValid && isValidOffset t then .ok (.moment (.both d t)) else .error .badValue
    | some m => .ok (.moment m)
  | .str => .ok (.text text)
  | _ => .error .malformed

end Scalar

end Statechart.Yaml
