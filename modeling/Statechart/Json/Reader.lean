import Statechart.Number.Numeral
import Statechart.Text.Digits
import Statechart.Value.Table

/-!
# Reading JSON

A JSON text as a value. Objects keep the order of their members, of two members with one name the later value
stands; the words for infinity and for what is not a number are read as numbers.
-/

set_option autoImplicit false
set_option relaxedAutoImplicit false

namespace Statechart.Json

def isSpace (c : Char) : Bool := c == ' ' || c == '\t' || c == '\n' || c == '\r'

def skipSpace (cs : List Char) : List Char := cs.dropWhile isSpace

/-- The code unit of four hexadecimal digits. -/
def unit? : List Char → Option (Nat × List Char)
  | a :: b :: c :: d :: rest => (Text.natOfDigits? 16 [a, b, c, d]).map (·, rest)
  | _ => none

def isHighSurrogate (n : Nat) : Bool := 0xD800 ≤ n && n < 0xDC00

def isLowSurrogate (n : Nat) : Bool := 0xDC00 ≤ n && n < 0xE000

/-- A character from an escape by code units; a unit without its partner becomes the replacement character. -/
def escapedUnit? (cs : List Char) : Option (Char × List Char) := do
  let (n, rest) ← unit? cs
  if isHighSurrogate n then
    match rest with
    | '\\' :: 'u' :: after =>
      match unit? after with
      | some (m, after) =>
        if isLowSurrogate m then
          some (Char.ofNat (0x10000 + (n - 0xD800) * 0x400 + (m - 0xDC00)), after)
        else some ('\uFFFD', rest)
      | none => some ('\uFFFD', rest)
    | _ => some ('\uFFFD', rest)
  else if isLowSurrogate n then some ('\uFFFD', rest)
  else some (Char.ofNat n, rest)

def escaped? : List Char → Option (Char × List Char)
  | '"' :: rest => some ('"', rest)
  | '\\' :: rest => some ('\\', rest)
  | '/' :: rest => some ('/', rest)
  | 'b' :: rest => some ('\x08', rest)
  | 'f' :: rest => some ('\x0c', rest)
  | 'n' :: rest => some ('\n', rest)
  | 'r' :: rest => some ('\r', rest)
  | 't' :: rest => some ('\t', rest)
  | 'u' :: rest => escapedUnit? rest
  | _ => none

/-- The rest of a string behind its opening quote, collected in reverse. -/
def string? : Nat → List Char → List Char → Option (String × List Char)
  | 0, _, _ => none
  | _ + 1, _, [] => none
  | fuel + 1, done, c :: rest =>
    if c == '"' then some (String.ofList done.reverse, rest)
    else if c == '\\' then do
      let (d, rest) ← escaped? rest
      string? fuel (d :: done) rest
    else if c.toNat < 0x20 then none
    else string? fuel (c :: done) rest

/-- A number: an integer unless it has a point or an exponent. -/
def number? (cs : List Char) : Option (Value × List Char) := do
  let (negative, unsigned) := match cs with
    | '-' :: rest => (true, rest)
    | cs => (false, cs)
  let (digits, rest) := Numeral.spanDigits unsigned
  let whole ← match digits with
    | [] => none
    | '0' :: _ => some ['0']
    | ds => some ds
  let rest := if whole.length < digits.length then digits.drop 1 ++ rest else rest
  let (part, rest) := match rest with
    | '.' :: after =>
      let (part, behind) := Numeral.spanDigits after
      if part.isEmpty then ([], rest) else (part, behind)
    | rest => ([], rest)
  let (power, rest) := match rest with
    | e :: after =>
      if e == 'e' || e == 'E' then
        let (minus, unsigned) := Numeral.sign after
        let (ds, behind) := Numeral.spanDigits unsigned
        if ds.isEmpty then (none, rest)
        else (some (if minus then -(Numeral.natOf ds : Int) else Numeral.natOf ds), behind)
      else (none, rest)
    | [] => (none, rest)
  if part.isEmpty && power.isNone then
    if Numeral.digitLimit < whole.length then none
    let n : Int := Numeral.natOf whole
    some (.int (if negative then -n else n), rest)
  else
    some (.float (Double.ofDecimal negative (Numeral.natOf (whole ++ part)) (power.getD 0 - part.length)), rest)

/-- What stands behind a word, if the text begins with it. -/
def after? (word : String) (cs : List Char) : Option (List Char) :=
  if word.toList.isPrefixOf cs then some (cs.drop word.length) else none

/-- The words that stand for values. -/
def words : List (String × Value) :=
  [("null", .null), ("true", .bool true), ("false", .bool false), ("NaN", .float .nan),
    ("Infinity", .float (.infinity false)), ("-Infinity", .float (.infinity true))]

def word? (cs : List Char) : Option (Value × List Char) :=
  words.findSome? fun (word, v) ↦ (after? word cs).map (v, ·)

/-- Why a text is not read. One that is too deep is given up at an array or at an object, which is told. -/
inductive Flaw where
  | malformed
  | tooDeep (kind : String)
deriving DecidableEq, Repr

abbrev Parse (α : Type) := Except Flaw α

def Parse.ofOption {α : Type} : Option α → Parse α
  | some a => .ok a
  | none => .error .malformed

/-- How deep arrays and objects may stand within each other. -/
def levelLimit : Nat := 960

mutual

/-- Reads a value that stands within `level` others. -/
def value (level : Nat) : Nat → List Char → Parse (Value × List Char)
  | 0, _ => .error .malformed
  | fuel + 1, cs =>
    match cs with
    | '"' :: rest => (Parse.ofOption (string? (rest.length + 1) [] rest)).map fun (s, rest) ↦ (.text s, rest)
    | '[' :: rest =>
      if levelLimit ≤ level then .error (.tooDeep "array")
      else
        match skipSpace rest with
        | ']' :: rest => .ok (.list [], rest)
        | rest => (items (level + 1) fuel rest).map fun (items, rest) ↦ (.list items, rest)
    | '{' :: rest =>
      if levelLimit ≤ level then .error (.tooDeep "object")
      else
        match skipSpace rest with
        | '}' :: rest => .ok (.table [], rest)
        | rest => (members (level + 1) fuel rest).map fun (ms, rest) ↦ (.table (Entries.ofList ms), rest)
    | cs => .ofOption ((word? cs).or (number? cs))

def items (level : Nat) : Nat → List Char → Parse (List Value × List Char)
  | 0, _ => .error .malformed
  | fuel + 1, cs => do
    let (v, rest) ← value level fuel (skipSpace cs)
    match skipSpace rest with
    | ',' :: rest =>
      let (vs, rest) ← items level fuel rest
      return (v :: vs, rest)
    | ']' :: rest => return ([v], rest)
    | _ => throw .malformed

def members (level : Nat) : Nat → List Char → Parse (List (Value × Value) × List Char)
  | 0, _ => .error .malformed
  | fuel + 1, cs => do
    match skipSpace cs with
    | '"' :: rest =>
      let (name, rest) ← Parse.ofOption (string? (rest.length + 1) [] rest)
      match skipSpace rest with
      | ':' :: rest =>
        let (v, rest) ← value level fuel (skipSpace rest)
        match skipSpace rest with
        | ',' :: rest =>
          let (ms, rest) ← members level fuel rest
          return ((.text name, v) :: ms, rest)
        | '}' :: rest => return ([(.text name, v)], rest)
        | _ => throw .malformed
      | _ => throw .malformed
    | _ => throw .malformed

end

/-- The value of a text that is one JSON value with nothing but blanks around it. -/
def read (s : String) : Parse Value := do
  let cs := skipSpace s.toList
  let (v, rest) ← value 0 (2 * cs.length + 2) cs
  if (skipSpace rest).isEmpty then return v else throw .malformed

def read? (s : String) : Option Value := (read s).toOption

end Statechart.Json
