import Statechart.Bytes.Compressed
import Statechart.Failure
import Statechart.Http.Address
import Statechart.Json.Reader
import Statechart.Text.Blank
import Statechart.Text.Charset
import Statechart.Text.Letters

/-!
# Content

Content is bytes. It may have been packed in several ways one after the other, which are undone from the last to the
first; ways that nobody knows are passed over. Unpacked content is read as text or as JSON.
-/

set_option autoImplicit false
set_option relaxedAutoImplicit false

namespace Statechart.Http.Content

open Bytes

/-- Why content cannot be unpacked. -/
def trouble : Halt → String
  | .malformed reason => "Error -3 while decompressing data: " ++ reason
  | .foreign | .starved => "Error 2 while decompressing data"

def unpacked (wrapping : Wrapping) (bytes : List UInt8) : Outcome (List UInt8) :=
  match inflate wrapping bytes with
  | .ok out => .ok out
  | .error halt => .error (.foreign .badContent (trouble halt))

/-- Undoes one way of packing. Deflated content should stand between a header and a sum, but need not. -/
def unpackOne (way : String) (bytes : List UInt8) : Outcome (List UInt8) :=
  match way with
  | "gzip" => unpacked .file bytes
  | "deflate" =>
    match inflate .short bytes with
    | .ok out => .ok out
    | .error _ => unpacked .bare bytes
  | _ => .ok bytes

/-- The ways in which content was packed, by their names between commas. -/
def ways (names : String) : List String :=
  (Address.pieces ',' names.toList).map fun name ↦ Text.lower (String.ofList (Text.trimChars name))

def unpack (names : String) (bytes : List UInt8) : Outcome (List UInt8) :=
  if bytes.isEmpty then .ok [] else (ways names).reverse.foldlM (fun bytes way ↦ unpackOne way bytes) bytes

/-- How bytes of JSON are written: the first characters are in ASCII, so zeros tell the size of units. -/
def jsonSet (bytes : List UInt8) : Text.Charset :=
  if [0, 0, 0xFE, 0xFF].isPrefixOf bytes || [0xFF, 0xFE, 0, 0].isPrefixOf bytes then .utf32 none
  else if [0xFE, 0xFF].isPrefixOf bytes || [0xFF, 0xFE].isPrefixOf bytes then .utf16 none
  else if Text.Charset.Unicode.mark8.isPrefixOf bytes then .utf8 true
  else
    match bytes with
    | 0 :: b :: _ :: _ :: _ => if b == 0 then .utf32 (some true) else .utf16 (some true)
    | _ :: 0 :: c :: d :: _ => if c == 0 && d == 0 then .utf32 (some false) else .utf16 (some false)
    | [0, _] => .utf16 (some true)
    | [_, 0] => .utf16 (some false)
    | _ => .utf8 false

/-- What is said of content that is given up at an array or at an object. -/
def depthNote (kind : String) : String :=
  "maximum recursion depth exceeded while decoding a JSON " ++ kind ++ " from a unicode string"

/-- Content as a value, if it is JSON. -/
def json? (bytes : List UInt8) : Outcome (Option Value) :=
  match (jsonSet bytes).text? bytes with
  | none => .ok none
  | some text =>
    match Json.read text with
    | .ok v => .ok (some v)
    | .error .malformed => .ok none
    | .error (.tooDeep kind) => .error (.foreign .tooDeep (depthNote kind))

/-- Content as text in a character set, the usual one if none is given or known. -/
def text (name : Option Text.Charset) (bytes : List UInt8) : Outcome String :=
  if bytes.isEmpty then .ok "" else do
    return Text.Charset.shown (← (name.getD (.utf8 false)).decode bytes)

end Statechart.Http.Content
