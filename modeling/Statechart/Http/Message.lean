import Statechart.Http.Content
import Statechart.Http.MediaType
import Statechart.Http.Url
import Statechart.Value.Item

/-!
# Requests and replies

What is sent and what comes back. The body of a reply is read as JSON when the reply says that it is JSON and it can be
read so, and as text otherwise.
-/

set_option autoImplicit false
set_option relaxedAutoImplicit false

namespace Statechart.Http

/-- Headers by name, in the order in which they were given. -/
abbrev Headers := List (String × String)

namespace Headers

/-- Headers under names in lower case; values of one name are joined. -/
def unified (headers : Headers) : Headers :=
  headers.foldl (fun out (name, value) ↦
    let name := Text.lower name
    match out.lookup name with
    | some _ => out.map fun h ↦ if h.1 == name then (name, h.2 ++ ", " ++ value) else h
    | none => out ++ [(name, value)]) []

def get? (headers : Headers) (name : String) : Option String := (unified headers).lookup name

/-- The bytes of a text in ASCII. -/
def plainBytes (s : String) : Outcome (List UInt8) :=
  let cs := s.toList
  let front := cs.takeWhile (·.toNat < 0x80)
  let stray := (cs.drop front.length).takeWhile (0x80 ≤ ·.toNat)
  let place := toString front.length
  let refuse (what : String) : Outcome (List UInt8) :=
    .error (.foreign .unencodable ("'ascii' codec can't encode " ++ what ++ ": ordinal not in range(128)"))
  match stray with
  | [] => .ok s.toUTF8.toList
  | [c] => refuse ("character '" ++ Text.asciiOnly (String.ofList [c]) ++ "' in position " ++ place)
  | _ => refuse ("characters in position " ++ place ++ "-" ++ toString (front.length + stray.length - 1))

def nameBytes : Value → Outcome (List UInt8)
  | .bytes b => .ok b
  | v => match v.asText? with
    | some s => plainBytes s
    | none => .error (.plain .missingAttribute)

def valueBytes : Value → Outcome (List UInt8)
  | .bytes b => .ok b
  | v => match v.asText? with
    | some s => plainBytes s
    | none => .error (.foreign .wrongType
      ("Header value must be str or bytes, not <class '" ++ v.kindName ++ "'>"))

/-- Headers from names and values, of which all are read in the character set that fits. -/
def ofPairs (pairs : List (Value × Value)) : Outcome Headers := do
  let raw ← pairs.mapM fun (k, v) ↦ do return (← nameBytes k, ← valueBytes v)
  let wide := (Text.Charset.Unicode.utf8 · ·)
  let fits (bytes : List UInt8) : Bool := (wide bytes.length bytes).all (·.isSome)
  let read (bytes : List UInt8) : String :=
    if raw.all fun (k, v) ↦ fits k && fits v then Text.Charset.shown (wide bytes.length bytes)
    else Percent.latin bytes
  return raw.map fun (k, v) ↦ (read k, read v)

/-- Headers from a table or from pairs; null stands for none. -/
def ofValue : Value → Outcome Headers
  | .null => .ok []
  | .table entries => ofPairs entries
  | v => do ofPairs (← (← v.elements).mapM Value.pair)

end Headers

structure Request where
  method : String
  url : Url
  headers : Headers := []
deriving Repr, Inhabited

/-- What comes back, its content unpacked. -/
structure Response where
  status : Int := 200
  headers : Headers := []
  content : List UInt8 := []
  /-- The cookies that it leaves, as they are written. -/
  cookies : List String := []
deriving Repr, Inhabited

/-- What happens to a request. -/
inductive Reaction where
  | response (r : Response)
  | failure (f : Failure)
deriving Repr, Inhabited

/-- A reply with its body read. -/
structure Reply where
  status : Int
  headers : Headers
  body : Value
deriving Repr, Inhabited

namespace Reply

/-- The members of a reply. -/
def toValue (r : Reply) : Value :=
  .ofFields [("status_code", .int r.status),
    ("headers", .ofFields (r.headers.map fun (name, value) ↦ (name, .text value))), ("body", r.body)]

def isSuccess (r : Reply) : Bool := 200 ≤ r.status && r.status < 300

end Reply

namespace Response

/-- The bytes of a body; texts are in UTF-8. -/
def bodyBytes : Value → Outcome (List UInt8)
  | .null => .ok []
  | .bytes b => .ok b
  | v => match v.asText? with
    | some s => .ok s.toUTF8.toList
    | none => .error .wrongType

/-- A response from its status, its headers and its body. The headers give the length of a body that is not empty. -/
def ofParts (status : Int) (headers body : Value) : Outcome Response := do
  let pairs ← Headers.ofValue headers
  let given := Headers.unified pairs
  let bytes ← bodyBytes body
  let headers := if bytes.isEmpty || (given.lookup "content-length").isSome then given
    else given ++ [("content-length", toString bytes.length)]
  let content ← Content.unpack ((given.lookup "content-encoding").getD "") bytes
  return { status, headers, content, cookies := (pairs.filter fun h ↦ Text.lower h.1 == "set-cookie").map (·.2) }

def jsonType : String := "application/json"

/-- Whether characters stand somewhere among others. -/
def isWithin (part : List Char) : List Char → Bool
  | [] => part.isEmpty
  | c :: rest => part.isPrefixOf (c :: rest) || isWithin part rest

/-- The type of the content that the headers tell. -/
def contentType (r : Response) : String := (Headers.get? r.headers "content-type").getD ""

/-- Whether the headers say that the body is JSON. -/
def saysJson (r : Response) : Bool := isWithin jsonType.toList r.contentType.toList

/-- The character set of the body, if the headers name a known one. -/
def charset? (r : Response) : Outcome (Option Text.Charset) := do
  match Headers.get? r.headers "content-type" with
  | none => return none
  | some type =>
    match ← MediaType.charset? type with
    | none => return none
    | some name => MediaType.setNamed? name

/-- The content as text. -/
def text (r : Response) : Outcome String :=
  if r.content.isEmpty then .ok "" else do Content.text (← r.charset?) r.content

/-- The body as a value. -/
def body (r : Response) : Outcome Value := do
  match ← if r.saysJson then Content.json? r.content else pure none with
  | some v => return v
  | none => return .text (← r.text)

def reply (r : Response) : Outcome Reply := do return ⟨r.status, r.headers, ← r.body⟩

end Response

namespace Reaction

def ofOutcome : Outcome Response → Reaction
  | .ok r => .response r
  | .error f => .failure f

end Reaction

end Statechart.Http
