import Statechart.Http.Message
import Statechart.Http.Query

/-!
# Locations

A reply may send a request on to another location. The request for it is prepared, though it is not sent, so the location
has to be one for which there is a request.
-/

set_option autoImplicit false
set_option relaxedAutoImplicit false

namespace Statechart.Http

namespace Url

/-- Schemes in which a place may be given from another one. -/
def nestedSchemes : List String :=
  ["", "ftp", "http", "gopher", "nntp", "imap", "wais", "file", "https", "shttp", "mms", "prospero", "rtsp", "rtspu",
    "sftp", "svn", "svn+ssh", "ws", "wss"]

/-- The segments that are left when steps to the same and to the parent directory are taken. -/
def walked (segments : List (List Char)) : List (List Char) :=
  let step (done : List (List Char)) (s : List Char) : List (List Char) :=
    if s == ['.', '.'] then done.drop 1 else if s == ['.'] then done else s :: done
  let done := (segments.foldl step []).reverse
  if segments.getLast? == some ['.'] || segments.getLast? == some ['.', '.'] then done ++ [[]] else done

/-- A path seen from another path: without a slash in front it begins where the last segment of the other one stands. -/
def mergedPath (base path : String) : String :=
  if path == "" then base
  else
    let own := Address.pieces '/' path.toList
    let segments :=
      if path.startsWith "/" then own
      else
        let around := Address.pieces '/' base.toList
        let around := if around.getLast? == some [] then around else around.dropLast
        let all := around ++ own
        all.take 1 ++ ((all.drop 1).dropLast.filter fun s ↦ !s.isEmpty) ++ (all.drop 1).getLast?.toList
    let merged := "/".intercalate ((walked segments).map String.ofList)
    if merged == "" then "/" else merged

/-- Where a location leads that is given from another one. -/
def resolve (base u : Url) : Url :=
  if !nestedSchemes.contains base.scheme || (u.scheme != "" && u.scheme != base.scheme) then u
  else
    let place := if u.authority == "" then base else u
    { u with
      scheme := base.scheme
      user := place.user
      host := place.host
      port := if place.port == defaultPort? base.scheme then none else place.port
      path := if u.authority == "" then mergedPath base.path u.path else u.path }

/-- The port that is meant where none is given. -/
def meantPort (u : Url) : Option Int :=
  u.port.or ([("http", 80), ("https", 443)].lookup u.scheme)

/-- Whether two URLs belong to one server. Hosts are compared as they are read. -/
def sameServer (u v : Url) : Outcome Bool := do
  if u.scheme != v.scheme then return false
  return (← u.hostName) == (← v.hostName) && u.meantPort == v.meantPort

/-- User, host and port go into a header, which is in ASCII. -/
def checkPlain (u : Url) : Outcome Unit := do
  let _ ← Headers.plainBytes { u with user := "" }.authority

end Url

namespace Response

/-- Statuses that send a request on. -/
def movedStatuses : List Int := [301, 302, 303, 307, 308]

/-- Where a response sends a request on to. -/
def location? (r : Response) : Option String :=
  if movedStatuses.contains r.status then Headers.get? r.headers "location" else none

end Response

namespace Location

/-- The URL of a location; one without a host is on the host of the request. -/
def target (request : Url) (location : String) : Outcome Url := do
  let u ← match Url.ofText location with
    | .ok u => pure u
    | .error f => throw (.foreign .badReply ("Invalid URL in location header: " ++ f.said ++ "."))
  let u ← if u.scheme != "" && (← u.hostName) == "" then u.withHost (← request.hostName) else pure u
  let u := if u.isAbsolute then u else request.resolve u
  let fragment := Query.plainPart (request.fragment.getD "")
  if fragment != "" && (u.fragment.getD "") == "" then u.withFragment fragment else return u

/-- The URL of a location for which there is a request. -/
def next (request : Url) (location : String) : Outcome Url := do
  let u ← target request location
  if !(← u.sameServer request) then
    let _ ← request.hostName
    let _ ← u.hostName
    u.checkPlain
  return u

end Location

end Statechart.Http
