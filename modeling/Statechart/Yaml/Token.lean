import Statechart.Failure

/-!
# Tokens of a YAML document

The reader of tokens keeps the column structure of block collections: it opens a block where a key or an entry
stands further to the right than before, and closes it where the text comes back. A key that has no mark of its own
is recognised by the colon behind it, so its token is put in front of what has been read already. Tokens up to the
place where a text is malformed are kept, with the fault behind them.
-/

set_option autoImplicit false
set_option relaxedAutoImplicit false

namespace Statechart.Yaml

inductive Token where
  | directive (name : String) (arguments : List String)
  | documentStart
  | documentEnd
  | streamEnd
  | blockSequenceStart
  | blockMappingStart
  | blockEnd
  | flowSequenceStart
  | flowSequenceEnd
  | flowMappingStart
  | flowMappingEnd
  | blockEntry
  | flowEntry
  | key
  | value
  | alias (name : String)
  | anchor (name : String)
  | tag (handle : Option String) (suffix : String)
  | scalar (text : String) (isPlain : Bool)
  /-- The text cannot be read any further. -/
  | broken (fault : Fault)
deriving DecidableEq, Repr, Inhabited

/-- A place where a key may have begun that shows itself only by the colon behind it. -/
structure KeyCandidate where
  flowLevel : Nat
  /-- How many tokens stand before it. -/
  position : Nat
  required : Bool
  index : Nat
  line : Nat
  column : Nat

structure Reading where
  rest : List Char
  index : Nat := 0
  line : Nat := 0
  column : Nat := 0
  /-- The tokens read, latest first. -/
  tokens : List Token := []
  flowLevel : Nat := 0
  /-- The column of the current block, minus one outside of all blocks. -/
  indent : Int := -1
  indents : List Int := []
  keyAllowed : Bool := true
  candidates : List KeyCandidate := []

/-- Reading tokens can fail; what was read before stays. -/
abbrev Reader := ExceptT Fault (StateM Reading)

namespace Reader

def malformed {α : Type} : Reader α := throw .badYaml

/-- The character at a distance, with the zero character at the end of the text. -/
def peekAt (n : Nat) : Reader Char := do return ((← get).rest[n]?).getD '\x00'

def peek : Reader Char := do return ((← get).rest.head?).getD '\x00'

def isBreak (c : Char) : Bool :=
  c == '\r' || c == '\n' || c == '\x85' || c == '\u2028' || c == '\u2029'

def isEnd (c : Char) : Bool := c == '\x00'

def isBreakOrEnd (c : Char) : Bool := isBreak c || isEnd c

/-- A break, a blank or the end. -/
def isGap (c : Char) : Bool := isBreakOrEnd c || c == ' ' || c == '\t'

/-- One character onwards, with line and column kept. -/
def advanceOne (r : Reading) : Reading :=
  match r.rest with
  | [] => r
  | c :: rest =>
    let r := { r with rest := rest, index := r.index + 1 }
    if c == '\n' || c == '\x85' || c == '\u2028' || c == '\u2029' || (c == '\r' && rest.head? != some '\n') then
      { r with line := r.line + 1, column := 0 }
    else if c != '\uFEFF' then { r with column := r.column + 1 }
    else r

def advanceBy : Nat → Reading → Reading
  | 0, r => r
  | n + 1, r => advanceBy n (advanceOne r)

def forward (n : Nat) : Reader Unit := modify (advanceBy n)

/-- The characters at the front that satisfy a condition, read. -/
def takeWhile (p : Char → Bool) : Reader (List Char) := do
  let cs := (← get).rest.takeWhile p
  forward cs.length
  return cs

def skipWhile (p : Char → Bool) : Reader Unit := do
  let _ ← takeWhile p

/-- A line break, if there is one, as the text it stands for. -/
def lineBreak : Reader (List Char) := do
  match (← get).rest with
  | '\r' :: '\n' :: _ => forward 2; return ['\n']
  | c :: _ =>
    if c == '\u2028' || c == '\u2029' then forward 1; return [c]
    else if isBreak c then forward 1; return ['\n']
    else return []
  | [] => return []

/-- The mark of a document's start or end stands here, whatever the column. -/
def atSeparator : Reader Bool := do
  match (← get).rest with
  | a :: b :: c :: rest =>
    return (a == b && b == c && (a == '-' || a == '.')) && isGap ((rest.head?).getD '\x00')
  | _ => return false

def push (t : Token) : Reader Unit := modify fun r ↦ { r with tokens := t :: r.tokens }

/-- Puts tokens where a key turned out to begin. -/
def insertAt (position : Nat) (ts : List Token) : Reader Unit :=
  modify fun r ↦
    let behind := r.tokens.length - position
    { r with tokens := r.tokens.take behind ++ ts.reverse ++ r.tokens.drop behind }

/-! ### Blocks and keys -/

/-- Drops candidates that are on another line or too far back. -/
def dropStale : Reader Unit := do
  let r ← get
  let isStale (k : KeyCandidate) : Bool := k.line != r.line || r.index - k.index > 1024
  if r.candidates.any fun k ↦ isStale k && k.required then malformed
  set { r with candidates := r.candidates.filter fun k ↦ !isStale k }

def dropCandidate : Reader Unit := do
  let r ← get
  if r.candidates.any fun k ↦ k.flowLevel == r.flowLevel && k.required then malformed
  set { r with candidates := r.candidates.filter fun k ↦ k.flowLevel != r.flowLevel }

def saveCandidate : Reader Unit := do
  if (← get).keyAllowed then
    dropCandidate
    modify fun r ↦ { r with candidates := ⟨r.flowLevel, r.tokens.length,
      r.flowLevel == 0 && r.indent == r.column, r.index, r.line, r.column⟩ :: r.candidates }

def allowKey (b : Bool) : Reader Unit := modify fun r ↦ { r with keyAllowed := b }

/-- Closes the blocks that stand further to the right than a column. -/
def closeBlocks (column : Int) (r : Reading) : List Int → Reading
  | [] => r
  | outer :: indents =>
    if column < r.indent then
      closeBlocks column { r with tokens := .blockEnd :: r.tokens, indent := outer, indents := indents } indents
    else r

def unwind (column : Int) : Reader Unit :=
  modify fun r ↦ if r.flowLevel == 0 then closeBlocks column r r.indents else r

/-- Opens a block at a column to the right of the current one, and tells whether it did. -/
def openBlock (column : Nat) : Reader Bool := do
  let r ← get
  if r.indent < column then
    set { r with indents := r.indent :: r.indents, indent := (column : Int) }
    return true
  else return false

/-! ### Scalars -/

/-- Line breaks among blanks inside a quoted scalar. -/
def quotedBreaks : Nat → Reader (List Char)
  | 0 => malformed
  | fuel + 1 => do
    if ← atSeparator then malformed
    skipWhile fun c ↦ c == ' ' || c == '\t'
    if isBreak (← peek) then return (← lineBreak) ++ (← quotedBreaks fuel)
    else return []

/-- Breaks fold: one becomes a space, and of several the first is dropped. -/
def folded (first breaks : List Char) : List Char :=
  (if first != ['\n'] then first else if breaks.isEmpty then [' '] else []) ++ breaks

def quotedSpaces : Reader (List Char) := do
  let blanks ← takeWhile fun c ↦ c == ' ' || c == '\t'
  let c ← peek
  if isEnd c then malformed
  else if isBreak c then
    let first ← lineBreak
    return folded first (← quotedBreaks ((← get).rest.length + 1))
  else return blanks

/-- The characters that single-letter escapes stand for. -/
def escapes : List (Char × Char) :=
  [('0', '\x00'), ('a', '\x07'), ('b', '\x08'), ('t', '\t'), ('\t', '\t'), ('n', '\n'), ('v', '\x0b'),
    ('f', '\x0c'), ('r', '\r'), ('e', '\x1b'), (' ', ' '), ('"', '"'), ('\\', '\\'), ('/', '/'),
    ('N', '\x85'), ('_', '\xa0'), ('L', '\u2028'), ('P', '\u2029')]

def isHex (c : Char) : Bool := c.isDigit || ('a' ≤ c && c ≤ 'f') || ('A' ≤ c && c ≤ 'F')

def hexValue (cs : List Char) : Nat :=
  cs.foldl (fun n c ↦ 16 * n + (if c.isDigit then c.toNat - 48 else if c < 'a' then c.toNat - 55
    else c.toNat - 87)) 0

/-- The character of a number, which may be too large for one or for any. -/
def character (n : Nat) : Reader Char :=
  if 0x7FFFFFFF < n then throw .overflow
  else if 0x10FFFF < n then throw .badValue
  else return Char.ofNat n

/-- What an escape behind its backslash stands for. -/
def escape : Reader (List Char) := do
  let c ← peek
  match escapes.lookup c with
  | some d => forward 1; return [d]
  | none =>
    let width := if c == 'x' then 2 else if c == 'u' then 4 else if c == 'U' then 8 else 0
    if 0 < width then
      forward 1
      let digits := (← get).rest.take width
      if digits.length == width && digits.all isHex then
        forward width
        return [← character (hexValue digits)]
      else malformed
    else if isBreak c then
      let _ ← lineBreak
      quotedBreaks ((← get).rest.length + 1)
    else malformed

def isQuotedStop (c : Char) : Bool := c == '\'' || c == '"' || c == '\\' || isGap c

/-- Text inside a quoted scalar up to the next blank, break or closing quote. -/
def quotedText (double : Bool) : Nat → Reader (List Char)
  | 0 => malformed
  | fuel + 1 => do
    let plain ← takeWhile fun c ↦ !isQuotedStop c
    let c ← peek
    if !double && c == '\'' && (← peekAt 1) == '\'' then
      forward 2
      return plain ++ '\'' :: (← quotedText double fuel)
    else if (double && c == '\'') || (!double && (c == '"' || c == '\\')) then
      forward 1
      return plain ++ c :: (← quotedText double fuel)
    else if double && c == '\\' then
      forward 1
      let e ← escape
      return plain ++ e ++ (← quotedText double fuel)
    else return plain

def quotedRest (double : Bool) (quote : Char) : Nat → Reader (List Char)
  | 0 => malformed
  | fuel + 1 => do
    if (← peek) == quote then
      forward 1
      return []
    else
      let spaces ← quotedSpaces
      let text ← quotedText double ((← get).rest.length + 1)
      return spaces ++ text ++ (← quotedRest double quote fuel)

def quoted (double : Bool) : Reader (List Char) := do
  forward 1
  let length := (← get).rest.length + 1
  let text ← quotedText double length
  return text ++ (← quotedRest double (if double then '"' else '\'') length)

/-- How many characters at the front belong to a plain scalar on this line. -/
def plainLength (inFlow : Bool) : List Char → Nat
  | [] => 0
  | c :: rest =>
    let next := (rest.head?).getD '\x00'
    let isFlowMark (d : Char) : Bool := d == ',' || d == '[' || d == ']' || d == '\x7b' || d == '\x7d'
    if isGap c || (c == ':' && (isGap next || (inFlow && isFlowMark next)))
        || (inFlow && (isFlowMark c || c == '?')) then 0
    else plainLength inFlow rest + 1

/-- Further breaks behind the first one of a plain scalar; none at the mark of a document. -/
def plainBreaks : Nat → Reader (Option (List Char))
  | 0 => malformed
  | fuel + 1 => do
    let c ← peek
    if c == ' ' then
      forward 1
      plainBreaks fuel
    else if isBreak c then
      let b ← lineBreak
      if ← atSeparator then return none
      return (← plainBreaks fuel).map (b ++ ·)
    else return some []

/-- The blanks and breaks behind a part of a plain scalar. -/
def plainSpaces : Reader (List Char) := do
  let blanks ← takeWhile (· == ' ')
  if isBreak (← peek) then
    let first ← lineBreak
    allowKey true
    if ← atSeparator then return []
    match ← plainBreaks ((← get).rest.length + 1) with
    | none => return []
    | some breaks => return folded first breaks
  else return blanks

def plainParts (indent : Int) : Nat → List Char → Reader (List Char)
  | 0, _ => malformed
  | fuel + 1, spaces => do
    let r ← get
    let length := if (← peek) == '#' then 0 else plainLength (0 < r.flowLevel) r.rest
    if length == 0 then return []
    else
      allowKey false
      forward length
      let part := spaces ++ r.rest.take length
      let spaces ← plainSpaces
      let after ← get
      if spaces.isEmpty || (← peek) == '#' || (after.flowLevel == 0 && (after.column : Int) < indent) then
        return part
      else return part ++ (← plainParts indent fuel spaces)

def plain : Reader (List Char) := do
  let r ← get
  plainParts (r.indent + 1) (r.rest.length + 1) []

/-- What is kept of the breaks at the end of a block scalar: one, none or all. -/
inductive Chomping where
  | clip
  | strip
  | keep
deriving DecidableEq

def chompingOf? (c : Char) : Option Chomping :=
  if c == '+' then some .keep else if c == '-' then some .strip else none

def increment? (c : Char) : Option Nat :=
  if '1' ≤ c && c ≤ '9' then some (c.toNat - 48) else none

/-- The marks behind the sign of a block scalar. -/
def blockMarks : Reader (Chomping × Option Nat) := do
  let c ← peek
  match chompingOf? c with
  | some chomping =>
    forward 1
    let d ← peek
    match increment? d with
    | some n => forward 1; return (chomping, some n)
    | none => if d == '0' then malformed else return (chomping, none)
  | none =>
    match increment? c with
    | some n =>
      forward 1
      match chompingOf? (← peek) with
      | some chomping => forward 1; return (chomping, some n)
      | none => return (.clip, some n)
    | none => if c == '0' then malformed else return (.clip, none)

/-- The rest of a line that may hold a comment only. -/
def ignoredLine : Reader Unit := do
  skipWhile (· == ' ')
  if (← peek) == '#' then skipWhile fun c ↦ !isBreakOrEnd c
  if isBreakOrEnd (← peek) then
    let _ ← lineBreak
  else malformed

/-- The breaks before the first line of a block scalar, and the widest indentation among them. -/
def blockIndentation : Nat → Nat → Reader (List Char × Nat)
  | 0, widest => return ([], widest)
  | fuel + 1, widest => do
    let c ← peek
    if c == ' ' then
      forward 1
      blockIndentation fuel (max widest (← get).column)
    else if isBreak c then
      let b ← lineBreak
      let (breaks, widest) ← blockIndentation fuel widest
      return (b ++ breaks, widest)
    else return ([], widest)

def skipIndent (indent : Nat) : Nat → Reader Unit
  | 0 => return
  | fuel + 1 => do
    if (← get).column < indent && (← peek) == ' ' then
      forward 1
      skipIndent indent fuel

def blockBreaks (indent : Nat) : Nat → Reader (List Char)
  | 0 => return []
  | fuel + 1 => do
    skipIndent indent (indent + 1)
    if isBreak (← peek) then return (← lineBreak) ++ (← blockBreaks indent fuel)
    else return []

/-- The lines of a block scalar; at the end, its last break and the empty lines behind it. -/
def blockLines (isFolded : Bool) (indent : Nat) : Nat → List Char → Reader (List Char × List Char × List Char)
  | 0, _ => malformed
  | fuel + 1, breaks => do
    if (← get).column != indent || isEnd (← peek) then return ([], [], breaks)
    else
      let leading := (← peek) != ' ' && (← peek) != '\t'
      let line ← takeWhile fun c ↦ !isBreakOrEnd c
      let last ← lineBreak
      let next ← blockBreaks indent ((← get).rest.length + 1)
      let c ← peek
      if (← get).column == indent && !isEnd c then
        let joint :=
          if isFolded && last == ['\n'] && leading && c != ' ' && c != '\t' then
            (if next.isEmpty then [' '] else [])
          else last
        let (more, last, next) ← blockLines isFolded indent fuel next
        return (breaks ++ line ++ joint ++ more, last, next)
      else return (breaks ++ line, last, next)

def block (isFolded : Bool) : Reader (List Char) := do
  forward 1
  let (chomping, increment) ← blockMarks
  if !(isBreakOrEnd (← peek) || (← peek) == ' ') then malformed
  ignoredLine
  let least := (max ((← get).indent + 1) 1).toNat
  let length := (← get).rest.length + 1
  let (indent, breaks) ← match increment with
    | some n => do
      let indent := least + n - 1
      pure (indent, ← blockBreaks indent length)
    | none => do
      let (breaks, widest) ← blockIndentation length 0
      pure (max least widest, breaks)
  let (text, last, next) ← blockLines isFolded indent length breaks
  return text ++ (match chomping with
    | .clip => last
    | .strip => []
    | .keep => last ++ next)

/-! ### Names and tags -/

def isWord (c : Char) : Bool := c.isAlphanum || c == '-' || c == '_'

def name : Reader String := do
  forward 1
  let cs ← takeWhile isWord
  let c ← peek
  if cs.isEmpty || !(isGap c || "?:,]\x7d%@\x60".contains c) then malformed
  return String.ofList cs

def isUri (c : Char) : Bool := c.isAlphanum || "-;/?:@&=+$,_.!~*'()[]%".contains c

/-- The bytes of escapes at the front of a tag. -/
def uriBytes : Nat → Reader (List UInt8)
  | 0 => return []
  | fuel + 1 => do
    match (← get).rest with
    | '%' :: a :: b :: _ =>
      if isHex a && isHex b then
        forward 3
        return UInt8.ofNat (hexValue [a, b]) :: (← uriBytes fuel)
      else malformed
    | '%' :: _ => malformed
    | _ => return []

def uriParts : Nat → Reader (List Char)
  | 0 => return []
  | fuel + 1 => do
    let cs ← takeWhile fun c ↦ isUri c && c != '%'
    if (← peek) == '%' then
      let bytes ← uriBytes ((← get).rest.length)
      match String.fromUTF8? ⟨bytes.toArray⟩ with
      | none => malformed
      | some s => return cs ++ s.toList ++ (← uriParts fuel)
    else return cs

def uri : Reader String := do
  let cs ← uriParts ((← get).rest.length + 1)
  if cs.isEmpty then malformed
  return String.ofList cs

/-- A handle: a mark alone, or letters between two marks. -/
def handle : Reader String := do
  if (← peek) != '!' then malformed
  let r ← get
  let letters := (r.rest.drop 1).takeWhile isWord
  let next := (r.rest[letters.length + 1]?).getD '\x00'
  if letters.isEmpty && next == ' ' then
    forward 1
    return "!"
  else if next == '!' then
    forward (letters.length + 2)
    return String.ofList ('!' :: letters ++ ['!'])
  else malformed

def isTagEnd (c : Char) : Bool := isBreakOrEnd c || c == ' '

def tag : Reader Token := do
  let next ← peekAt 1
  let t ← if next == '<' then do
      forward 2
      let suffix ← uri
      if (← peek) != '>' then malformed
      forward 1
      pure (Token.tag none suffix)
    else if isGap next then do
      forward 1
      pure (Token.tag none "!")
    else do
      let word := ((← get).rest.drop 1).takeWhile fun c ↦ !isTagEnd c
      let h ← if word.contains '!' then handle else (do forward 1; pure "!")
      pure (Token.tag (some h) (← uri))
  if isTagEnd (← peek) then return t
  malformed

def directive : Reader Token := do
  forward 1
  let cs ← takeWhile isWord
  if cs.isEmpty || !isTagEnd (← peek) then malformed
  let name := String.ofList cs
  let arguments ← if name == "YAML" then do
      skipWhile (· == ' ')
      let major ← takeWhile Char.isDigit
      if major.isEmpty || (← peek) != '.' then malformed
      forward 1
      let minor ← takeWhile Char.isDigit
      if minor.isEmpty || !isTagEnd (← peek) then malformed
      pure [String.ofList major, String.ofList minor]
    else if name == "TAG" then do
      skipWhile (· == ' ')
      let h ← handle
      if (← peek) != ' ' then malformed
      skipWhile (· == ' ')
      let p ← uri
      if !isTagEnd (← peek) then malformed
      pure [h, p]
    else do
      skipWhile fun c ↦ !isBreakOrEnd c
      pure []
  ignoredLine
  return .directive name arguments

/-! ### The next token -/

/-- Skips blanks, comments and breaks. -/
def skipGaps : Nat → Reader Unit
  | 0 => return
  | fuel + 1 => do
    skipWhile (· == ' ')
    if (← peek) == '#' then skipWhile fun c ↦ !isBreakOrEnd c
    if isBreak (← peek) then
      let _ ← lineBreak
      if (← get).flowLevel == 0 then allowKey true
      skipGaps fuel

/-- Ends all blocks and keys, as the marks of documents and of the stream do. -/
def closeAll : Reader Unit := do
  unwind (-1)
  dropCandidate
  allowKey false

def flowStart (t : Token) : Reader Unit := do
  saveCandidate
  modify fun r ↦ { r with flowLevel := r.flowLevel + 1, keyAllowed := true }
  forward 1
  push t

def flowEnd (t : Token) : Reader Unit := do
  dropCandidate
  if (← get).flowLevel == 0 then malformed
  modify fun r ↦ { r with flowLevel := r.flowLevel - 1, keyAllowed := false }
  forward 1
  push t

/-- A mark that opens a block of its kind where it stands to the right. -/
def blockMark (opening t : Token) (keyBehind : Bool) : Reader Unit := do
  let r ← get
  if r.flowLevel == 0 then
    if !r.keyAllowed then malformed
    if ← openBlock r.column then push opening
  allowKey keyBehind
  dropCandidate
  forward 1
  push t

def valueMark : Reader Unit := do
  let r ← get
  match r.candidates.find? fun k ↦ k.flowLevel == r.flowLevel with
  | some k =>
    set { r with candidates := r.candidates.filter fun k ↦ k.flowLevel != r.flowLevel }
    let opened ← if r.flowLevel == 0 then openBlock k.column else pure false
    insertAt k.position (if opened then [.blockMappingStart, .key] else [.key])
    allowKey false
    forward 1
    push .value
  | none => blockMark .blockMappingStart .value (r.flowLevel == 0)

def scalarToken (isPlain : Bool) (text : Reader (List Char)) : Reader Unit := do
  saveCandidate
  allowKey false
  let cs ← text
  push (.scalar (String.ofList cs) isPlain)

def blockScalar (isFolded : Bool) : Reader Unit := do
  allowKey true
  dropCandidate
  let cs ← block isFolded
  push (.scalar (String.ofList cs) false)

/-- A character with which a plain scalar can begin. -/
def startsPlain (c next : Char) (inFlow : Bool) : Bool :=
  !(isGap c || "-?:,[]\x7b\x7d#&*!|>'\"%@\x60".contains c)
    || (!isGap next && (c == '-' || (!inFlow && (c == '?' || c == ':'))))

/-- Reads the next token, and tells whether it was the last. -/
def next : Reader Bool := do
  let r ← get
  if r.index == 0 && r.rest.head? == some '\uFEFF' then forward 1
  skipGaps ((← get).rest.length + 1)
  dropStale
  unwind (← get).column
  let r ← get
  let c ← peek
  let d ← peekAt 1
  let inFlow := 0 < r.flowLevel
  if r.rest.isEmpty then
    closeAll
    push .streamEnd
    return true
  if c == '%' && r.column == 0 then
    closeAll
    push (← directive)
  else if r.column == 0 && (← atSeparator) then
    closeAll
    forward 3
    push (if c == '-' then .documentStart else .documentEnd)
  else if c == '[' then flowStart .flowSequenceStart
  else if c == '\x7b' then flowStart .flowMappingStart
  else if c == ']' then flowEnd .flowSequenceEnd
  else if c == '\x7d' then flowEnd .flowMappingEnd
  else if c == ',' then
    allowKey true
    dropCandidate
    forward 1
    push .flowEntry
  else if c == '-' && isGap d then blockMark .blockSequenceStart .blockEntry true
  else if c == '?' && (inFlow || isGap d) then blockMark .blockMappingStart .key (!inFlow)
  else if c == ':' && (inFlow || isGap d) then valueMark
  else if c == '*' then
    saveCandidate
    allowKey false
    push (.alias (← name))
  else if c == '&' then
    saveCandidate
    allowKey false
    push (.anchor (← name))
  else if c == '!' then
    saveCandidate
    allowKey false
    push (← tag)
  else if c == '|' && !inFlow then blockScalar false
  else if c == '>' && !inFlow then blockScalar true
  else if c == '\'' then scalarToken false (quoted false)
  else if c == '"' then scalarToken false (quoted true)
  else if startsPlain c d inFlow then scalarToken true plain
  else malformed
  return false

def all : Nat → Reader Unit
  | 0 => malformed
  | fuel + 1 => do
    if !(← next) then all fuel

/-- Characters that may stand in a document. -/
def isAllowed (c : Char) : Bool :=
  let n := c.toNat
  n == 9 || n == 10 || n == 13 || (0x20 ≤ n && n ≤ 0x7E) || n == 0x85 || (0xA0 ≤ n && n ≤ 0xD7FF)
    || (0xE000 ≤ n && n ≤ 0xFFFD) || 0x10000 ≤ n

end Reader

/-- The tokens of a text. -/
def tokensOf (text : String) : List Token :=
  let cs := text.toList
  if cs.all Reader.isAllowed then
    let (outcome, r) := (Reader.all (2 * cs.length + 4)).run.run { rest := cs }
    r.tokens.reverse ++ (match outcome with
      | .ok () => []
      | .error f => [.broken f])
  else [.broken .badYaml]

end Statechart.Yaml
