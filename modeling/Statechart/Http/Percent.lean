import Statechart.Text.Digits

/-!
# Percent encoding

A character that must not stand for itself is written as its bytes, each behind a percent sign. Bytes that are written so
already are kept.
-/

set_option autoImplicit false
set_option relaxedAutoImplicit false

namespace Statechart.Http.Percent

def upperHex (n : Nat) : Char := if n < 10 then Char.ofNat (48 + n) else Char.ofNat (55 + n)

def byte (b : UInt8) : List Char := ['%', upperHex (b.toNat / 16), upperHex (b.toNat % 16)]

/-- A character as its bytes. -/
def bytes (c : Char) : List Char := (String.ofList [c]).toUTF8.toList.flatMap byte

def isAsciiLetter (c : Char) : Bool := ('a' ≤ c && c ≤ 'z') || ('A' ≤ c && c ≤ 'Z')

/-- Letters, digits and four marks always stand for themselves. -/
def isUnreserved (c : Char) : Bool :=
  isAsciiLetter c || c.isDigit || c == '-' || c == '.' || c == '_' || c == '~'

/-- A text in which some more characters stand for themselves. -/
def encode (safe : Char → Bool) : List Char → List Char
  | '%' :: a :: b :: rest =>
    if (Text.hexDigit? a).isSome && (Text.hexDigit? b).isSome then '%' :: a :: b :: encode safe rest
    else
      (if safe '%' then ['%'] else bytes '%') ++ encode safe (a :: b :: rest)
  | c :: rest => (if isUnreserved c || safe c then [c] else bytes c) ++ encode safe rest
  | [] => []

/-- Bytes as characters with the same numbers. -/
def latin (bytes : List UInt8) : String := String.ofList (bytes.map fun b ↦ Char.ofNat b.toNat)

/-- The bytes of characters in ASCII; a percent sign in front of two digits stands for a byte. -/
def bytesOf : List Char → List UInt8
  | '%' :: a :: b :: rest =>
    match Text.natOfDigits? 16 [a, b] with
    | some n => UInt8.ofNat n :: bytesOf rest
    | none => UInt8.ofNat '%'.toNat :: bytesOf (a :: b :: rest)
  | c :: rest => UInt8.ofNat c.toNat :: bytesOf rest
  | [] => []

/-- A text without percent signs that stand for bytes: what is in ASCII is read as bytes, run by run. -/
def decode (read : List UInt8 → String) (s : String) : String :=
  let finish (run : List Char) : String := read (bytesOf run.reverse)
  let (out, run) := s.toList.foldl (fun (out, run) c ↦
    if c.toNat < 0x80 then (out, c :: run) else (out ++ finish run ++ String.ofList [c], [])) ("", ([] : List Char))
  out ++ finish run

/-- A character of a form field: a blank is a plus. -/
def fieldChar (c : Char) : List Char :=
  if c == ' ' then ['+'] else if isUnreserved c then [c] else bytes c

def field (s : String) : String := String.ofList (s.toList.flatMap fieldChar)

/-- Printable ASCII without some characters. -/
def printableBut (excluded : String) (c : Char) : Bool :=
  0x20 ≤ c.toNat && c.toNat < 0x7F && !excluded.toList.contains c

def fragmentSafe : Char → Bool := printableBut " \"<>\x60"

def querySafe : Char → Bool := printableBut " \"#<>"

def pathSafe : Char → Bool := printableBut " \"#<>?\x60\x7b\x7d"

def userSafe : Char → Bool := printableBut " \"#<>?\x60\x7b\x7d/;=@[\\]^|"

def hostSafe (c : Char) : Bool := "!$&'()*+,;=\"\x60\x7b\x7d%|\\".toList.contains c

end Statechart.Http.Percent
