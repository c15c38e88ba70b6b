import Statechart.Http.Cookie
import Statechart.Http.Location
import Statechart.Script

/-!
# The HTTP client

A client opens a connection with its first request and drops it when it is closed; the next request opens another one. What
the other side does with each request is given in advance, the last entry standing for all further ones. A status outside
of success is a failure, unless the client is told to hand every reply on.
-/

set_option autoImplicit false
set_option relaxedAutoImplicit false

namespace Statechart.Http

structure Client where
  base : Value := .text ""
  headers : Entries := []
  timeout : Value := .int 30
  refusesFailures : Bool := true
  reactions : List Reaction := []
  isOpen : Bool := false
  /-- The time by which cookies expire, in seconds since the beginning of 1970. -/
  now : Int := 0
  /-- The cookies of the open connection. -/
  jar : Jar := []
  /-- What was sent, in order. -/
  sent : List Request := []
deriving Repr, Inhabited

/-- What a client needs to send requests. -/
structure Connection where
  base : Url
  headers : Headers
  /-- Whether there are cookies. -/
  hasCookies : Bool

/-- Whether a URL begins with the name of its kind, by which cookies are kept. -/
def hasKind (url : Url) : Bool :=
  let cs := url.text.toList
  let kind := cs.takeWhile fun c ↦ c != ':' && c != '/'
  !kind.isEmpty && (cs.drop kind.length).head? == some ':'

def checkKind (url : Url) : Outcome Unit :=
  if hasKind url then .ok () else .error (.foreign .badValue ("unknown url type: " ++ Text.quoted url.text))

/-- The request for a URL, which goes to a host whose name can be read unless the headers tell another one. Where there are
cookies the URL is of a kind, since they are looked up by it. -/
def Connection.request (c : Connection) (method url params : Value) : Outcome Request := do
  let some text := url.asText? | throw .wrongType
  let joined ← c.base.join (← Url.ofText text)
  let query ← Query.ofParameters params
  let some word := method.asText? | throw (.plain .missingAttribute)
  let full ← match query with
    | none => pure joined
    | some query => joined.withQuery query
  if c.hasCookies then checkKind full
  let headers := Headers.unified c.headers
  if (headers.lookup "host").isNone && (← full.hostName) != "" then full.checkPlain
  return ⟨Text.upper word, full, headers⟩

namespace Client

/-- The name under which the client logs. -/
def part : String := "hexchart.drivers.http_client.http_client"

def record (method url : Value) : Entry := .record part "DEBUG" (method.shown ++ " " ++ url.shown)

/-- A client from its settings; headers that are nothing stand for none. -/
def ofParts (base headers timeout : Value) (refusesFailures : Bool) (reactions : List Reaction)
    (now : Int) : Outcome Client := do
  let headers ← if headers.isTruthy then Entries.ofValue headers else pure []
  return { base, headers, timeout, refusesFailures, reactions, now }

/-- Times to connect and to read, if times are given one by one. -/
def checkTimeout : Value → Outcome Unit
  | .tuple times => if times.length < 2 then .error (.plain .outOfRange) else .ok ()
  | _ => .ok ()

def connection (c : Client) : Outcome Connection := do
  let base ← match c.base.asText? with
    | some text => (← Url.ofText text).asBase
    | none => throw .wrongType
  let headers ← Headers.ofPairs c.headers
  checkTimeout c.timeout
  return { base, headers, hasCookies := !c.jar.isEmpty }

/-- What happens to the next request. -/
def reaction (c : Client) : Reaction :=
  match c.reactions[c.sent.length]? with
  | some r => r
  | none => c.reactions.getLast?.getD (.response {})

/-- The cookies after a reply. -/
def collected (c : Client) (sent : Request) (r : Response) : Outcome Jar := do
  checkKind sent.url
  Cookie.collect c.now (Cookie.Origin.ofUrl sent.url (sent.headers.lookup "host")) c.jar r.cookies

/-- The reply to a request that was sent. -/
def accept (c : Client) (url : Url) (r : Response) : Outcome Reply := do
  if let some location := r.location? then
    let next ← Location.next url location
    if !c.jar.isEmpty then checkKind next
  let reply ← r.reply
  if c.refusesFailures && !reply.isSuccess then
    throw (.http (.int reply.status) reply.body ("HTTP " ++ toString reply.status ++ ": " ++ reply.body.shown))
  return reply

/-- Sends a request. -/
def request (c : Client) (method url params : Value) : Client × Outcome Reply :=
  match c.connection with
  | .error f => (c, .error f)
  | .ok connection =>
    let c := { c with isOpen := true }
    match connection.request method url params with
    | .error f => (c, .error f)
    | .ok r =>
      let next := { c with sent := c.sent ++ [r] }
      match c.reaction with
      | .failure f => (next, .error f)
      | .response response =>
        match c.collected r response with
        | .error f => (next, .error f)
        | .ok jar =>
          let next := { next with jar }
          (next, next.accept r.url response)

/-- The next request finds no cookies. -/
def close (c : Client) : Client := { c with isOpen := false, jar := [] }

/-- What a signup is told: the title of an object, or the whole body. -/
def confirmation (r : Reply) : String :=
  match r.body with
  | .table es => ((Entries.get? es "title").getD (.text "")).shown
  | v => v.shown

/-- Sends a signup, which is a request for the URL of the configuration. -/
def submit (c : Client) (url : Value) : Client × Outcome String :=
  let (c, outcome) := c.request (.text "GET") url .null
  (c, outcome.map confirmation)

end Client

end Statechart.Http
