/-!
# Deflated bytes

Bytes are deflated into blocks of codes, each code a byte or the length and the distance of bytes that were there
before. Reading goes as far as it can: bytes that end too early give what they hold so far, and only what no writer
produces is a fault.
-/

set_option autoImplicit false
set_option relaxedAutoImplicit false

namespace Statechart.Bytes

/-- Why reading ends before its end. -/
inductive Halt where
  /-- There are no more bytes. -/
  | starved
  | malformed (reason : String)
  /-- The bytes refer to others that are known beforehand. -/
  | foreign
deriving DecidableEq, Repr

/-- How far bytes are read, in bits, and what they gave. -/
structure Progress where
  bytes : Array UInt8
  position : Nat := 0
  output : Array UInt8 := #[]

abbrev Reader := ExceptT Halt (StateM Progress)

namespace Inflate

def malformed {α : Type} (reason : String) : Reader α := throw (.malformed reason)

/-- The next bit; bits of a byte begin with the lowest. -/
def bit : Reader Nat := do
  let p ← get
  match p.bytes[p.position / 8]? with
  | none => throw .starved
  | some b =>
    set { p with position := p.position + 1 }
    return (b.toNat >>> (p.position % 8)) % 2

/-- A number of bits, the lowest first. -/
def bits : Nat → Reader Nat
  | 0 => return 0
  | n + 1 => do
    let low ← bit
    return low + 2 * (← bits n)

/-- Goes on at the next whole byte. -/
def align : Reader Unit := modify fun p ↦ { p with position := (p.position + 7) / 8 * 8 }

def put (b : UInt8) : Reader Unit := modify fun p ↦ { p with output := p.output.push b }

/-! ### Codes -/

/-- Codes by their lengths: how many there are of each length from 1, and the symbols in the order of their codes. -/
structure Code where
  counts : List Nat
  symbols : Array Nat

namespace Code

def longest : Nat := 15

/-- The codes that the lengths of the codes of symbols define; a length of zero is no code. -/
def ofLengths (lengths : List Nat) : Code :=
  { counts := (List.range longest).map fun i ↦ lengths.count (i + 1)
    symbols := ((List.range longest).flatMap fun i ↦
      (lengths.zipIdx.filter fun l ↦ l.1 == i + 1).map (·.2)).toArray }

/-- How many codes of the greatest length are left over, negative if there are too many codes. -/
def left (c : Code) : Int := c.counts.foldl (fun (n : Int) (count : Nat) ↦ 2 * n - count) 1

def isEmpty (c : Code) : Bool := c.symbols.isEmpty

/-- Every sequence of bits begins with a code of the set. -/
def isComplete (c : Code) : Bool := c.left == 0

/-- There may be too few codes only where there is one at most, of one bit. -/
def isUsable (c : Code) : Bool := c.isEmpty || c.isComplete || (c.symbols.size == 1 && c.counts.head? == some 1)

/-- The symbol of the code that comes next, none if there is no such code. -/
def read (c : Code) : Reader (Option Nat) :=
  if c.isComplete then go c.counts 0 0 0
  else do
    let b ← bit
    return if b == 0 then c.symbols[0]? else none
where
  go : List Nat → Nat → Nat → Nat → Reader (Option Nat)
    | [], _, _, _ => return none
    | count :: rest, code, first, index => do
      let code := code + (← bit)
      if code < first + count then return c.symbols[index + (code - first)]?
      go rest (2 * code) (2 * (first + count)) (index + count)

end Code

/-! ### Blocks -/

/-- The shortest length and the number of bits that are added to it, by symbols from 257. -/
def lengthCodes : Array (Nat × Nat) :=
  #[(3, 0), (4, 0), (5, 0), (6, 0), (7, 0), (8, 0), (9, 0), (10, 0), (11, 1), (13, 1), (15, 1), (17, 1), (19, 2),
    (23, 2), (27, 2), (31, 2), (35, 3), (43, 3), (51, 3), (59, 3), (67, 4), (83, 4), (99, 4), (115, 4), (131, 5),
    (163, 5), (195, 5), (227, 5), (258, 0)]

def distanceCodes : Array (Nat × Nat) :=
  #[(1, 0), (2, 0), (3, 0), (4, 0), (5, 1), (7, 1), (9, 2), (13, 2), (17, 3), (25, 3), (33, 4), (49, 4), (65, 5),
    (97, 5), (129, 6), (193, 6), (257, 7), (385, 7), (513, 8), (769, 8), (1025, 9), (1537, 9), (2049, 10), (3073, 10),
    (4097, 11), (6145, 11), (8193, 12), (12289, 12), (16385, 13), (24577, 13)]

/-- Repeats bytes that were there before. -/
def copy (distance : Nat) : Nat → Reader Unit
  | 0 => return
  | n + 1 => do
    let out := (← get).output
    put ((out[out.size - distance]?).getD 0)
    copy distance n

/-- The codes of a block up to its end. -/
def codes (literals distances : Code) : Nat → Reader Unit
  | 0 => throw .starved
  | fuel + 1 => do
    match ← literals.read with
    | none => malformed "invalid literal/length code"
    | some symbol =>
      if symbol < 256 then
        put (UInt8.ofNat symbol)
        codes literals distances fuel
      else if symbol == 256 then return
      else
        match lengthCodes[symbol - 257]? with
        | none => malformed "invalid literal/length code"
        | some (base, extra) =>
          let length := base + (← bits extra)
          match (← distances.read).bind (distanceCodes[·]?) with
          | none => malformed "invalid distance code"
          | some (base, extra) =>
            let distance := base + (← bits extra)
            if (← get).output.size < distance then malformed "invalid distance too far back"
            copy distance length
            codes literals distances fuel

/-- Bytes that stand as they are. -/
def stored : Nat → Reader Unit
  | 0 => return
  | n + 1 => do
    put (UInt8.ofNat (← bits 8))
    stored n

def storedBlock : Reader Unit := do
  align
  let length ← bits 16
  let inverse ← bits 16
  if length + inverse != 65535 then malformed "invalid stored block lengths"
  stored length

def fixedLiterals : Code :=
  .ofLengths (List.replicate 144 8 ++ List.replicate 112 9 ++ List.replicate 24 7 ++ List.replicate 8 8)

def fixedDistances : Code := .ofLengths (List.replicate 32 5)

/-- The order in which the lengths of the codes for lengths are written. -/
def lengthOrder : List Nat := [16, 17, 18, 0, 8, 7, 9, 6, 10, 5, 11, 4, 12, 3, 13, 2, 14, 1, 15]

/-- Lengths, some written as repetitions, until there are as many as wanted; the last read comes first. -/
def lengths (c : Code) (wanted : Nat) : Nat → List Nat → Reader (List Nat)
  | 0, _ => throw .starved
  | fuel + 1, done => do
    if wanted ≤ done.length then return done
    let symbol := (← c.read).getD 0
    if symbol < 16 then lengths c wanted fuel (symbol :: done)
    else
      let again ← bits (if symbol == 16 then 2 else if symbol == 17 then 3 else 7)
      let times := again + (if symbol == 18 then 11 else 3)
      if (symbol == 16 && done.isEmpty) || wanted < done.length + times then malformed "invalid bit length repeat"
      lengths c wanted fuel (List.replicate times (if symbol == 16 then done.headD 0 else 0) ++ done)

/-- The codes that a block brings with it. -/
def ownCodes : Reader (Code × Code) := do
  let literalCount := 257 + (← bits 5)
  let distanceCount := 1 + (← bits 5)
  let lengthCount := 4 + (← bits 4)
  if literalCount > 286 || distanceCount > 30 then malformed "too many length or distance symbols"
  let given ← (lengthOrder.take lengthCount).mapM fun symbol ↦ do return (symbol, ← bits 3)
  let c := Code.ofLengths ((List.range 19).map fun symbol ↦ (given.lookup symbol).getD 0)
  if !(c.isEmpty || c.isComplete) then malformed "invalid code lengths set"
  let all := (← lengths c (literalCount + distanceCount) (literalCount + distanceCount + 1) []).reverse
  if all[256]? == some 0 then malformed "invalid code -- missing end-of-block"
  let literals := Code.ofLengths (all.take literalCount)
  if !literals.isUsable then malformed "invalid literal/lengths set"
  let distances := Code.ofLengths (all.drop literalCount)
  if !distances.isUsable then malformed "invalid distances set"
  return (literals, distances)

/-- Block after block up to the one that is marked as the last. -/
def blocks : Nat → Reader Unit
  | 0 => throw .starved
  | fuel + 1 => do
    let last ← bit
    match ← bits 2 with
    | 0 => storedBlock
    | 1 => codes fixedLiterals fixedDistances fuel
    | 2 => do
      let (literals, distances) ← ownCodes
      codes literals distances fuel
    | _ => malformed "invalid block type"
    if last == 0 then blocks fuel

/-- All blocks; every code and every block takes a bit at least. -/
def body : Reader Unit := do blocks (8 * (← get).bytes.size + 1)

end Inflate

end Statechart.Bytes
