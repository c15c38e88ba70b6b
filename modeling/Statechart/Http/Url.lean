import Statechart.Http.Host
import Statechart.Number.Numeral

/-!
# URLs

A URL is kept in a form in which equal addresses look the same: scheme and host in lower case, no port that the scheme
has anyway, no steps to the same or the parent directory, and percent signs wherever a character cannot stand for itself.
-/

set_option autoImplicit false
set_option relaxedAutoImplicit false

namespace Statechart.Http

structure Url where
  scheme : String := ""
  user : String := ""
  host : String := ""
  port : Option Int := none
  path : String := ""
  query : Option String := none
  fragment : Option String := none
deriving DecidableEq, Repr, Inhabited

/-- The parts of a URL before they are looked at. -/
structure UrlParts where
  scheme : String := ""
  authority : String := ""
  path : String := ""
  query : Option String := none
  fragment : Option String := none

namespace UrlParts

/-- The scheme in front of a colon, and the rest. -/
def splitScheme (cs : List Char) : List Char × List Char :=
  let front := cs.takeWhile fun c ↦
    Percent.isAsciiLetter c || c.isDigit || c == '+' || c == '.' || c == '-'
  match front, cs.drop front.length with
  | [], ':' :: rest => ([], rest)
  | c :: _, ':' :: rest => if Percent.isAsciiLetter c then (front, rest) else ([], cs)
  | _, _ => ([], cs)

/-- The authority behind two slashes, and the rest. -/
def splitAuthority : List Char → List Char × List Char
  | '/' :: '/' :: rest =>
    let inside (c : Char) : Bool := c != '/' && c != '?' && c != '#'
    (rest.takeWhile inside, rest.dropWhile inside)
  | cs => ([], cs)

/-- A part behind a mark, up to another character, and the rest. -/
def splitMarked (mark : Char) (stop : Char → Bool) : List Char → Option String × List Char
  | c :: rest =>
    if c == mark then (some (String.ofList (rest.takeWhile fun c ↦ !stop c)), rest.dropWhile stop)
    else (none, c :: rest)
  | [] => (none, [])

def ofText (text : String) : UrlParts :=
  let (scheme, rest) := splitScheme text.toList
  let (authority, rest) := splitAuthority rest
  let inPath (c : Char) : Bool := c != '?' && c != '#'
  let tail := rest.dropWhile inPath
  let query := match tail with
    | '?' :: q => some (String.ofList (q.takeWhile (· != '#')))
    | _ => none
  let fragment := match tail.dropWhile (· != '#') with
    | '#' :: f => some (String.ofList f)
    | _ => none
  { scheme := String.ofList scheme
    authority := String.ofList authority
    path := String.ofList (rest.takeWhile inPath)
    query := query
    fragment := fragment }

end UrlParts

namespace Url

/-- The longest text that is taken for a URL. -/
def lengthLimit : Nat := 65536

/-- Control characters of ASCII. -/
def isControl (c : Char) : Bool := c.toNat < 0x20 || c.toNat == 0x7F

def defaultPort? (scheme : String) : Option Int :=
  [("ftp", 21), ("http", 80), ("https", 443), ("ws", 80), ("wss", 443)].lookup scheme

def portOf (scheme text : String) : Outcome (Option Int) :=
  if text == "" then .ok none
  else
    match Numeral.int? text with
    | none => invalidUrl ("Invalid port: " ++ Text.quoted text)
    | some n => .ok (if defaultPort? scheme == some n then none else some n)

/-- User, host and port of an authority. The user ends at the last at sign; a host in brackets at the last bracket. -/
def splitAuthority (authority : String) : String × String × String :=
  let cs := authority.toList.reverse
  let user := ((cs.dropWhile (· != '@')).drop 1).reverse
  let place := (cs.takeWhile (· != '@')).reverse
  let bracketed := (place.reverse.dropWhile (· != ']')).reverse
  let host := if place.head? == some '[' && !bracketed.isEmpty then bracketed
    else place.takeWhile (· != ':')
  let port := match place.drop host.length with
    | ':' :: port => port
    | port => port
  (String.ofList user, String.ofList host, String.ofList port)

/-- A path without steps to the same and to the parent directory. -/
def withoutSteps (path : String) : String :=
  let go (out : List (List Char)) (part : List Char) : List (List Char) :=
    if part == ['.'] then out
    else if part == ['.', '.'] then (if out.isEmpty || out == [[]] then out else out.drop 1)
    else part :: out
  let parts := Address.pieces '/' path.toList
  if parts.all fun p ↦ p != ['.'] && p != ['.', '.'] then path
  else "/".intercalate ((parts.foldl go []).reverse.map String.ofList)

/-- The rules for paths, which depend on what stands before them. -/
def checkPath (path : String) (hasScheme hasAuthority : Bool) : Outcome Unit :=
  if hasAuthority && path != "" && !path.startsWith "/" then
    invalidUrl "For absolute URLs, path must be empty or begin with '/'"
  else if !hasScheme && !hasAuthority && path.startsWith "//" then
    invalidUrl "Relative URLs cannot have a path starting with '//'"
  else if !hasScheme && !hasAuthority && path.startsWith ":" then
    invalidUrl "Relative URLs cannot have a path starting with ':'"
  else .ok ()

def encoded (safe : Char → Bool) (s : String) : String := String.ofList (Percent.encode safe s.toList)

/-- A URL from its parts, the port as a text. -/
def ofPieces (scheme user host port path : String) (query fragment : Option String) : Outcome Url := do
  let host ← Host.normalize host
  let port ← portOf scheme port
  let user := encoded Percent.userSafe user
  let scheme := Text.lower scheme
  let hasAuthority := user != "" || host != "" || port.isSome
  checkPath path (scheme != "") hasAuthority
  let path := if scheme != "" || hasAuthority then withoutSteps path else path
  return {
    scheme := scheme
    user := user
    host := host
    port := port
    path := encoded Percent.pathSafe path
    query := query.map (encoded Percent.querySafe)
    fragment := fragment.map (encoded Percent.fragmentSafe) }

def ofParts (p : UrlParts) : Outcome Url :=
  let (user, host, port) := splitAuthority p.authority
  ofPieces p.scheme user host port p.path p.query p.fragment

def ofText (text : String) : Outcome Url := do
  let cs := text.toList
  if cs.length > lengthLimit then invalidUrl "URL too long"
  if let some c := cs.find? isControl then
    invalidUrl ("Invalid non-printable ASCII character in URL, " ++ Text.quoted (String.ofList [c])
      ++ " at position " ++ toString (cs.takeWhile (· != c)).length ++ ".")
  ofParts (UrlParts.ofText text)

def authority (u : Url) : String :=
  (if u.user == "" then "" else u.user ++ "@")
    ++ (if u.host.toList.contains ':' then "[" ++ u.host ++ "]" else u.host)
    ++ (match u.port with
      | some n => ":" ++ toString n
      | none => "")

def text (u : Url) : String :=
  let authority := u.authority
  (if u.scheme == "" then "" else u.scheme ++ ":")
    ++ (if authority == "" then "" else "//" ++ authority)
    ++ u.path
    ++ (match u.query with
      | some q => "?" ++ q
      | none => "")
    ++ (match u.fragment with
      | some f => "#" ++ f
      | none => "")

/-- Path and query, as a request names them. -/
def target (u : Url) : String :=
  (if u.path == "" then "/" else u.path)
    ++ (match u.query with
      | some q => "?" ++ q
      | none => "")

def isAbsolute (u : Url) : Bool := u.scheme != "" && u.host != ""

/-- A part that is put into a URL is of a length that URLs may have, and without controls. -/
def checkPart (name text : String) : Outcome Unit := do
  let cs := text.toList
  if lengthLimit < cs.length then invalidUrl ("URL component '" ++ name ++ "' too long")
  if let some c := cs.find? isControl then
    invalidUrl ("Invalid non-printable ASCII character in URL " ++ name ++ " component, "
      ++ Text.quoted (String.ofList [c]) ++ " at position " ++ toString (cs.takeWhile (· != c)).length ++ ".")

def parts (u : Url) : UrlParts := ⟨u.scheme, u.authority, u.path, u.query, u.fragment⟩

/-- The URL that parts give, perhaps with another host. -/
def amended (p : UrlParts) (host : Option String) : Outcome Url := do
  checkPart "scheme" p.scheme
  checkPart "authority" p.authority
  checkPart "path" p.path
  checkPart "query" (p.query.getD "")
  checkPart "fragment" (p.fragment.getD "")
  match host with
  | none => ofParts p
  | some h =>
    checkPart "host" h
    let (user, _, port) := splitAuthority p.authority
    ofPieces p.scheme user (if h.toList.contains ':' then "[" ++ h ++ "]" else h) port p.path p.query p.fragment

/-- The URL with another path and query. -/
def withTarget (u : Url) (target : String) : Outcome Url :=
  let cs := target.toList
  let query := match cs.dropWhile (· != '?') with
    | _ :: q => some (String.ofList q)
    | [] => none
  amended { u.parts with path := String.ofList (cs.takeWhile (· != '?')), query := query } none

/-- The URL with another query. -/
def withQuery (u : Url) (query : Option String) : Outcome Url := amended { u.parts with query := query } none

def withFragment (u : Url) (fragment : String) : Outcome Url :=
  amended { u.parts with fragment := some fragment } none

def withHost (u : Url) (host : String) : Outcome Url := amended u.parts (some host)

/-- The host as it is read. -/
def hostName (u : Url) : Outcome String := Host.read u.host

/-- A base to which paths can be added: its target ends in a slash. -/
def asBase (u : Url) : Outcome Url :=
  if u.target.endsWith "/" then .ok u else u.withTarget (u.target ++ "/")

/-- A URL seen from a base: an absolute one is itself, any other is added to the target of the base. -/
def join (base u : Url) : Outcome Url :=
  if u.isAbsolute then .ok u
  else base.withTarget (base.target ++ String.ofList (u.target.toList.dropWhile (· == '/')))

end Url

end Statechart.Http
