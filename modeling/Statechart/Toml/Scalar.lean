import Statechart.Failure
import Statechart.Number.Numeral

/-!
# Scalars of TOML

Texts, numbers, truth values, dates and times. Each reader takes one of them from the front of a text and gives what
is left.
-/

set_option autoImplicit false
set_option relaxedAutoImplicit false

namespace Statechart.Toml

/-- A reader gives what it read and what is left. -/
abbrev Reader (α : Type) := List Char → Option (α × List Char)

/-- What is read from a text, or the fault for which reading stops. -/
abbrev Parse (α : Type) := Except Fault α

/-- What is not there makes a text malformed. -/
def Parse.ofOption {α : Type} : Option α → Parse α
  | some a => .ok a
  | none => .error .badToml

def isBlank (c : Char) : Bool := c == ' ' || c == '\t'

def isBlankOrBreak (c : Char) : Bool := isBlank c || c == '\n'

def skipBlanks (cs : List Char) : List Char := cs.dropWhile isBlank

/-- Control characters other than a tab may stand nowhere but at the end of a line. -/
def isControl (c : Char) : Bool := (c.toNat < 0x20 && c != '\t') || c.toNat == 0x7F

def isForbiddenInLines (c : Char) : Bool := isControl c && c != '\n'

/-! ### Texts -/

/-- A character given by a number of hexadecimal digits. -/
def hexChar (count : Nat) : Reader Char := fun cs ↦ do
  let digits := cs.take count
  if digits.length != count then none
  let n ← Text.natOfDigits? 16 digits
  if n < 0xD800 || (0xE000 ≤ n && n < 0x110000) then some (Char.ofNat n, cs.drop count) else none

/-- The character that an escape behind a backslash stands for. -/
def escaped : Reader Char
  | 'b' :: rest => some ('\x08', rest)
  | 't' :: rest => some ('\t', rest)
  | 'n' :: rest => some ('\n', rest)
  | 'f' :: rest => some ('\x0c', rest)
  | 'r' :: rest => some ('\r', rest)
  | '"' :: rest => some ('"', rest)
  | '\\' :: rest => some ('\\', rest)
  | 'u' :: rest => hexChar 4 rest
  | 'U' :: rest => hexChar 8 rest
  | _ => none

/-- The rest of a text in one line after its opening quote. -/
def basicText : Nat → Reader (List Char)
  | 0, _ => none
  | _, [] => none
  | _, '"' :: rest => some ([], rest)
  | fuel + 1, '\\' :: rest => do
    let (c, rest) ← escaped rest
    let (cs, rest) ← basicText fuel rest
    some (c :: cs, rest)
  | fuel + 1, c :: rest => do
    if isControl c then none
    let (cs, rest) ← basicText fuel rest
    some (c :: cs, rest)

/-- The rest of a text between single quotes, in which nothing is escaped. -/
def literalText : Reader (List Char)
  | [] => none
  | '\'' :: rest => some ([], rest)
  | c :: rest => do
    if isControl c then none
    let (cs, rest) ← literalText rest
    some (c :: cs, rest)

/-- Up to two quotes may stand right before the three that close a text. -/
def closing (quote : Char) (cs : List Char) : List Char × List Char :=
  let extra := (cs.take 2).takeWhile (· == quote)
  (extra, cs.drop extra.length)

/-- A backslash at the end of a line joins it with the next that is not blank. -/
def joinLines (cs : List Char) : Option (List Char) :=
  match skipBlanks cs with
  | '\n' :: rest => some (rest.dropWhile isBlankOrBreak)
  | _ => none

/-- The rest of a text of several lines. -/
def longText : Nat → Reader (List Char)
  | 0, _ => none
  | _, [] => none
  | _, '"' :: '"' :: '"' :: rest => some (closing '"' rest)
  | fuel + 1, '\\' :: rest => do
    if rest.head?.any isBlankOrBreak then
      longText fuel (← joinLines rest)
    else
      let (c, rest) ← escaped rest
      let (cs, rest) ← longText fuel rest
      some (c :: cs, rest)
  | fuel + 1, c :: rest => do
    if isForbiddenInLines c then none
    let (cs, rest) ← longText fuel rest
    some (c :: cs, rest)

/-- The rest of a text of several lines in which nothing is escaped. -/
def longLiteral : Reader (List Char)
  | [] => none
  | '\'' :: '\'' :: '\'' :: rest => some (closing '\'' rest)
  | c :: rest => do
    if isForbiddenInLines c then none
    let (cs, rest) ← longLiteral rest
    some (c :: cs, rest)

/-- A break right after the opening quotes does not belong to the text. -/
def afterFirstBreak : List Char → List Char
  | '\n' :: rest => rest
  | cs => cs

/-- A text in any of its four forms. -/
def text : Reader String := fun cs ↦
  let packed (r : Option (List Char × List Char)) : Option (String × List Char) :=
    r.map fun (cs, rest) ↦ (String.ofList cs, rest)
  match cs with
  | '"' :: '"' :: '"' :: rest => packed (longText (rest.length + 1) (afterFirstBreak rest))
  | '"' :: rest => packed (basicText (rest.length + 1) rest)
  | '\'' :: '\'' :: '\'' :: rest => packed (longLiteral (afterFirstBreak rest))
  | '\'' :: rest => packed (literalText rest)
  | _ => none

/-! ### Dates and times -/

/-- A number of exactly so many digits, between two bounds. -/
def fixedNat (count low high : Nat) : Reader Nat := fun cs ↦ do
  let digits := cs.take count
  if digits.length != count || !digits.all Char.isDigit then none
  let n := Numeral.natOf digits
  if low ≤ n && n ≤ high then some (n, cs.drop count) else none

def mark (c : Char) : List Char → Option (List Char)
  | d :: rest => if d == c then some rest else none
  | [] => none

/-- Digits after the point of a second; those beyond the sixth are dropped. -/
def microseconds (cs : List Char) : Nat × List Char :=
  match cs with
  | '.' :: rest =>
    let (digits, after) := Numeral.spanDigits rest
    if digits.isEmpty then (0, cs)
    else
      let six := digits.take 6
      (Numeral.natOf six * Nat.pow 10 (6 - six.length), after)
  | cs => (0, cs)

def clock : Reader ClockTime := fun cs ↦ do
  let (hour, cs) ← fixedNat 2 0 23 cs
  let (minute, cs) ← fixedNat 2 0 59 (← mark ':' cs)
  let (second, cs) ← fixedNat 2 0 59 (← mark ':' cs)
  let (micro, cs) := microseconds cs
  some (⟨hour, minute, second, micro, none⟩, cs)

/-- A distance from universal time in seconds, if there is one. -/
def zone (cs : List Char) : Option Int × List Char :=
  let distance (negative : Bool) (rest : List Char) : Option (Option Int × List Char) := do
    let (hour, rest) ← fixedNat 2 0 23 rest
    let (minute, rest) ← fixedNat 2 0 59 (← mark ':' rest)
    let seconds : Int := hour * 3600 + minute * 60
    some (some (if negative then -seconds else seconds), rest)
  match cs with
  | 'Z' :: rest | 'z' :: rest => (some 0, rest)
  | '+' :: rest => (distance false rest).getD (none, cs)
  | '-' :: rest => (distance true rest).getD (none, cs)
  | _ => (none, cs)

def date : Reader CalendarDate := fun cs ↦ do
  let (year, cs) ← fixedNat 4 0 9999 cs
  let (month, cs) ← fixedNat 2 1 12 (← mark '-' cs)
  let (day, cs) ← fixedNat 2 1 31 (← mark '-' cs)
  some (⟨year, month, day⟩, cs)

/-- A time of day behind a date. -/
def clockBehindDate : List Char → Option (ClockTime × List Char)
  | 'T' :: rest | 't' :: rest | ' ' :: rest => do
    let (t, rest) ← clock rest
    let (offset, rest) := zone rest
    some ({ t with offset := offset }, rest)
  | _ => none

/-! ### Numbers -/

/-- Digits at the front, with single underscores between them. -/
def lined (isDigit : Char → Bool) : List Char → List Char × List Char
  | '_' :: c :: rest =>
    if isDigit c then
      let (digits, rest) := lined isDigit rest
      ('_' :: c :: digits, rest)
    else ([], '_' :: c :: rest)
  | c :: rest =>
    if isDigit c then
      let (digits, rest) := lined isDigit rest
      (c :: digits, rest)
    else ([], c :: rest)
  | [] => ([], [])

/-- The digits of a number, of which the first is a digit indeed. -/
def digits (isDigit : Char → Bool) : Reader (List Char) := fun cs ↦
  if cs.head?.any isDigit then some (lined isDigit cs) else none

/-- A number in another base than ten. -/
def based (base : Nat) (cs : List Char) : Option (Value × List Char) := do
  let (ds, rest) ← digits (fun c ↦ (Text.hexDigit? c).any (· < base)) cs
  some (.int (← Text.natOfDigits? base (ds.filter (· != '_'))), rest)

/-- The whole part of a decimal number: zero, or digits without a leading zero. -/
def wholePart : Reader (List Char)
  | '0' :: rest => some (['0'], rest)
  | cs => digits Char.isDigit cs

/-- A point with digits behind it, or nothing. -/
def fractionPart (cs : List Char) : List Char × List Char :=
  match cs with
  | '.' :: rest =>
    match digits Char.isDigit rest with
    | some (ds, rest) => ('.' :: ds, rest)
    | none => ([], cs)
  | _ => ([], cs)

def signMark : List Char → List Char × List Char
  | '+' :: rest => (['+'], rest)
  | '-' :: rest => (['-'], rest)
  | cs => ([], cs)

def exponentPart (cs : List Char) : List Char × List Char :=
  match cs with
  | c :: rest =>
    if c == 'e' || c == 'E' then
      let (sign, after) := signMark rest
      match digits Char.isDigit after with
      | some (ds, rest) => (c :: sign ++ ds, rest)
      | none => ([], cs)
    else ([], cs)
  | [] => ([], [])

def decimal : Reader Value := fun cs ↦ do
  let (sign, cs) := signMark cs
  let (whole, cs) ← wholePart cs
  let (fraction, cs) := fractionPart cs
  let (exponent, cs) := exponentPart cs
  if fraction.isEmpty && exponent.isEmpty then
    let n : Int := Numeral.natOf (whole.filter (· != '_'))
    some (.int (if sign == ['-'] then -n else n), cs)
  else
    let d ← Numeral.double? (String.ofList (sign ++ whole ++ fraction ++ exponent))
    some (.float d, cs)

/-- Words for infinity and for what is not a number. -/
def wordNumber : Reader Value := fun cs ↦
  let (sign, rest) := signMark cs
  let word := String.ofList (rest.take 3)
  if word == "inf" then some (.float (Double.infinity (sign == ['-'])), rest.drop 3)
  else if word == "nan" then some (.float Double.nan, rest.drop 3)
  else none

/-- A number; an integer may have no more digits than integers in texts may have. -/
def number (cs : List Char) : Parse (Value × List Char) :=
  let other : Option (Value × List Char) :=
    match cs with
    | '0' :: 'x' :: rest => based 16 rest
    | '0' :: 'b' :: rest => based 2 rest
    | '0' :: 'o' :: rest => based 8 rest
    | _ => none
  match other <|> decimal cs <|> wordNumber cs with
  | none => .error .badToml
  | some (v, rest) =>
    if other.isNone && v.isTooLong then .error .badValue else .ok (v, rest)

/-- A date, a time, both, or a number. A date has to be in the calendar. -/
def momentOrNumber (cs : List Char) : Parse (Value × List Char) :=
  match date cs with
  | some (d, rest) =>
    if !d.isValid then .error .badToml
    else
      match clockBehindDate rest with
      | some (t, rest) => .ok (.moment (.both d t), rest)
      | none => .ok (.moment (.date d), rest)
  | none =>
    match clock cs with
    | some (t, rest) => .ok (.moment (.time t), rest)
    | none => number cs

end Statechart.Toml
