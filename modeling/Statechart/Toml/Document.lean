import Statechart.Failure
import Statechart.Toml.Scalar
import Statechart.Value.Table

/-!
# Documents of TOML

A document is a list of statements: entries with dotted keys, headers of tables, and headers that add a table to a
list. No name may be given twice, and neither a table that was declared nor one written in a line may be opened again.
-/

set_option autoImplicit false
set_option relaxedAutoImplicit false

namespace Statechart.Toml

/-! ### Keys -/

def isBare (c : Char) : Bool := c.isAlphanum || c == '-' || c == '_'

/-- One name of a key, bare or as a text in one line. -/
def keyPart : Reader String
  | '"' :: rest => (basicText (rest.length + 1) rest).map fun (cs, rest) ↦ (String.ofList cs, rest)
  | '\'' :: rest => (literalText rest).map fun (cs, rest) ↦ (String.ofList cs, rest)
  | cs =>
    let name := cs.takeWhile isBare
    if name.isEmpty then none else some (String.ofList name, cs.drop name.length)

/-- Names between dots, with blanks around each. -/
def key : Nat → Reader (List String)
  | 0, _ => none
  | fuel + 1, cs => do
    let (first, rest) ← keyPart cs
    match skipBlanks rest with
    | '.' :: rest => do
      let (names, rest) ← key fuel (skipBlanks rest)
      some (first :: names, rest)
    | rest => some ([first], rest)

/-! ### Tables that grow -/

/-- Changes the table that names lead to, which is made where there is none. A list stands for the last of its tables
where this is allowed. -/
def changeAt (intoLists : Bool) (change : Entries → Option Entries) : List String → Entries → Option Entries
  | [], es => change es
  | name :: names, es =>
    match Entries.get? es name with
    | none => do
      let inner ← changeAt intoLists change names []
      some (Entries.insert es (.text name) (.table inner))
    | some (.table inner) => do
      let inner ← changeAt intoLists change names inner
      some (Entries.insert es (.text name) (.table inner))
    | some (.list items) =>
      match intoLists, items.getLast? with
      | true, some (.table inner) => do
        let inner ← changeAt intoLists change names inner
        some (Entries.insert es (.text name) (.list (items.dropLast ++ [.table inner])))
      | _, _ => none
    | some _ => none

/-- Writes an entry that must not be there yet. -/
def addEntry (name : String) (v : Value) (es : Entries) : Option Entries :=
  match Entries.get? es name with
  | some _ => none
  | none => some (Entries.insert es (.text name) v)

/-- Adds a table to the list under a name. -/
def addTable (name : String) (es : Entries) : Option Entries :=
  match Entries.get? es name with
  | none => some (Entries.insert es (.text name) (.list [.table []]))
  | some (.list items) => some (Entries.insert es (.text name) (.list (items ++ [.table []])))
  | some _ => none

def isCollection : Value → Bool
  | .table _ | .list _ => true
  | _ => false

/-- Whether a name or one above it is among those that are closed for good. -/
def isClosed (closed : List (List String)) (names : List String) : Bool :=
  closed.any fun c ↦ c.isPrefixOf names

/-! ### Values -/

/-- Blanks, breaks and comments, as they may stand in lists; a comment holds no control characters. -/
def skipSpace : Nat → List Char → Option (List Char)
  | 0, _ => none
  | fuel + 1, cs =>
    match cs.dropWhile isBlankOrBreak with
    | '#' :: rest =>
      let comment := rest.takeWhile (· != '\n')
      if comment.any isControl then none else skipSpace fuel (rest.drop comment.length)
    | rest => some rest

/-- How many steps a value may stand below the document. -/
def depthLimit : Nat := 960

/-- How many steps the items of a list stand below it, and the entries of a table that is written in a line. -/
def listSteps : Nat := 2

def tableSteps : Nat := 3

/-- A value is no deeper than reading can go. -/
def checkDepth (depth : Nat) : Parse Unit := if depthLimit < depth then .error .tooDeep else .ok ()

mutual

/-- Reads a value that stands `depth` steps below the document. -/
def value (depth : Nat) : Nat → List Char → Parse (Value × List Char)
  | 0, _ => .error .badToml
  | fuel + 1, cs =>
    match cs with
    | '"' :: _ | '\'' :: _ => (Parse.ofOption (text cs)).map fun (s, rest) ↦ (.text s, rest)
    | 't' :: 'r' :: 'u' :: 'e' :: rest => .ok (.bool true, rest)
    | 'f' :: 'a' :: 'l' :: 's' :: 'e' :: rest => .ok (.bool false, rest)
    | '[' :: rest => do
      checkDepth (depth + listSteps)
      let rest ← Parse.ofOption <| skipSpace (rest.length + 1) rest
      let (items, rest) ← listItems (depth + listSteps) fuel rest
      return (.list items, rest)
    | '\x7b' :: rest =>
      match skipBlanks rest with
      | '\x7d' :: rest => .ok (.table [], rest)
      | rest => do
        checkDepth (depth + tableSteps)
        let (es, rest) ← inlineEntries (depth + tableSteps) fuel [] [] rest
        return (.table es, rest)
    | cs => momentOrNumber cs

/-- The items of a list up to its end; a comma may follow the last. -/
def listItems (depth : Nat) : Nat → List Char → Parse (List Value × List Char)
  | 0, _ => .error .badToml
  | fuel + 1, cs =>
    match cs with
    | ']' :: rest => .ok ([], rest)
    | cs => do
      let (v, rest) ← value depth fuel cs
      match ← Parse.ofOption (skipSpace (rest.length + 1) rest) with
      | ']' :: rest => return ([v], rest)
      | ',' :: rest => do
        let rest ← Parse.ofOption <| skipSpace (rest.length + 1) rest
        let (vs, rest) ← listItems depth fuel rest
        return (v :: vs, rest)
      | _ => throw .badToml

/-- A key, an equals sign and a value. -/
def keyValue (depth : Nat) : Nat → List Char → Parse ((List String × Value) × List Char)
  | 0, _ => .error .badToml
  | fuel + 1, cs => do
    let (names, rest) ← Parse.ofOption <| key (cs.length + 1) cs
    match rest with
    | '=' :: rest => do
      let (v, rest) ← value depth fuel (skipBlanks rest)
      return ((names, v), rest)
    | _ => throw .badToml

/-- The entries of a table that is written in a line. -/
def inlineEntries (depth : Nat) : Nat → List (List String) → Entries → List Char → Parse (Entries × List Char)
  | 0, _, _, _ => .error .badToml
  | fuel + 1, closed, es, cs => do
    let ((names, v), rest) ← keyValue depth fuel cs
    if isClosed closed names then throw .badToml
    let es ← Parse.ofOption <| changeAt false (addEntry (names.getLast?.getD "") v) names.dropLast es
    match skipBlanks rest with
    | '\x7d' :: rest => return (es, rest)
    | ',' :: rest =>
      inlineEntries depth fuel (if isCollection v then names :: closed else closed) es (skipBlanks rest)
    | _ => throw .badToml

end

/-! ### Statements -/

/-- A document as far as it was read. -/
structure Draft where
  entries : Entries := []
  /-- The table that the last header opened. -/
  header : List String := []
  /-- Names of values that cannot be opened, with all below them. -/
  closed : List (List String) := []
  /-- Names of tables that were declared. -/
  declared : List (List String) := []
  /-- Names of tables that are declared from the next header on. -/
  pending : List (List String) := []

namespace Draft

/-- The names on the way from a table to the table of a dotted key. -/
def between (header names : List String) : List (List String) :=
  (List.range (names.length - 1)).map fun i ↦ header ++ names.take (i + 1)

def addValue (d : Draft) (names : List String) (v : Value) : Option Draft := do
  let parents := between d.header names
  if parents.any d.declared.contains then none
  let place := d.header ++ names.dropLast
  if isClosed d.closed place then none
  let es ← changeAt true (addEntry (names.getLast?.getD "") v) place d.entries
  some { d with
    entries := es
    pending := parents ++ d.pending
    closed := if isCollection v then (d.header ++ names) :: d.closed else d.closed }

def settle (d : Draft) : Draft := { d with declared := d.pending ++ d.declared, pending := [] }

def openTable (d : Draft) (names : List String) : Option Draft := do
  let d := d.settle
  if d.declared.contains names || isClosed d.closed names then none
  let es ← changeAt true some names d.entries
  some { d with entries := es, header := names, declared := names :: d.declared }

def openItem (d : Draft) (names : List String) : Option Draft := do
  let d := d.settle
  if isClosed d.closed names then none
  let es ← changeAt true (addTable (names.getLast?.getD "")) names.dropLast d.entries
  let outside (n : List String) : Bool := !names.isPrefixOf n
  some { d with
    entries := es
    header := names
    closed := d.closed.filter outside
    declared := names :: d.declared.filter outside }

end Draft

/-- A header from the front of a text; no other text stands for one. -/
def header (d : Draft) (cs : List Char) : Option (Draft × List Char) :=
  match cs with
  | '[' :: '[' :: rest => do
    let (names, rest) ← key (rest.length + 1) (skipBlanks rest)
    let rest ← mark ']' (← mark ']' rest)
    some (← d.openItem names, rest)
  | '[' :: rest => do
    let (names, rest) ← key (rest.length + 1) (skipBlanks rest)
    let rest ← mark ']' rest
    some (← d.openTable names, rest)
  | _ => none

/-- One statement from the front of a text. -/
def statement (d : Draft) (cs : List Char) : Parse (Draft × List Char) :=
  match cs with
  | '[' :: _ => .ofOption (header d cs)
  | '#' :: _ => .ok (d, cs)
  | cs => do
    let ((names, v), rest) ← keyValue 0 (4 * cs.length + 8) cs
    return (← Parse.ofOption (d.addValue names v), rest)

/-- Behind a statement only a comment may stand. -/
def endOfLine (cs : List Char) : Option (List Char) :=
  match skipBlanks cs with
  | [] => some []
  | '\n' :: rest => some rest
  | '#' :: rest =>
    let comment := rest.takeWhile (· != '\n')
    if comment.any isControl then none else some (rest.drop (comment.length + 1))
  | _ => none

/-- Statement after statement. -/
def statements : Nat → Draft → List Char → Parse Draft
  | 0, _, _ => .error .badToml
  | fuel + 1, d, cs =>
    match skipBlanks cs with
    | [] => .ok d
    | '\n' :: rest => statements fuel d rest
    | cs => do
      let (d, rest) ← statement d cs
      statements fuel d (← Parse.ofOption (endOfLine rest))

def joinBreaks : List Char → List Char
  | '\r' :: '\n' :: rest => '\n' :: joinBreaks rest
  | c :: rest => c :: joinBreaks rest
  | [] => []

/-- The table that a text holds. -/
def load (text : String) : Outcome Entries :=
  let cs := joinBreaks text.toList
  ((statements (cs.length + 1) {} cs).map (·.entries)).mapError .plain

end Statechart.Toml
