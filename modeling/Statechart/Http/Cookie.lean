import Statechart.Http.Date
import Statechart.Http.Url

/-!
# Cookies

A reply may leave cookies with a client, each under a domain, a path and a name. A cookie is taken for the domain that it
names if the request went there, and one that has expired is given up together with the one that it stands for. Only what
tells cookies apart is kept.
-/

set_option autoImplicit false
set_option relaxedAutoImplicit false

namespace Statechart.Http

structure Cookie where
  domain : String
  path : String
  name : String
deriving DecidableEq, Repr, Inhabited

/-- The cookies of a client. -/
abbrev Jar := List Cookie

namespace Cookie

/-! ### What is written -/

/-- The parts of a written cookie. A part without a sign of equality has no value, and one without a name is none; without
a name in front there is no cookie. -/
def partsOf (text : String) : List (String × Option String) :=
  let part (s : String) : String × Option String :=
    let cs := s.toList
    let name := cs.takeWhile (· != '=')
    (Text.trim (String.ofList name), match cs.drop name.length with
      | [] => none
      | _ :: value => some (Text.trim (String.ofList value)))
  match (text.splitOn ";").map part with
  | [] => []
  | first :: rest => if first.1 == "" then [] else first :: rest.filter fun p ↦ p.1 != ""

def withoutQuotes (s : String) : String :=
  let cs := s.toList
  let cs := if cs.head? == some '"' then cs.drop 1 else cs
  String.ofList (if cs.getLast? == some '"' then cs.dropLast else cs)

/-- What a cookie says about itself. -/
structure Terms where
  version : Option String := none
  domain : Option String := none
  path : Option String := none
  /-- The ports, none of them where the name stands alone. -/
  port : Option (Option String) := none
  /-- When it expires, in seconds. -/
  expires : Option Int := none
  /-- Whether it is told how long it lasts, which counts more than a date. -/
  hasAge : Bool := false
deriving Repr

/-- Why a cookie is not taken. -/
inductive Refusal where
  /-- The cookie alone is refused. -/
  | alone
  /-- All cookies of its reply are refused. -/
  | all
deriving DecidableEq, Repr

/-- The terms with those of one more part. Of two parts with one name the first counts. -/
def Terms.add (now : Int) (present : Nat) (t : Terms) (part : String × Option String) : Except Refusal Terms :=
  let given (known : Bool) (value : Option String) (set : String → Terms) : Except Refusal Terms :=
    if known then .ok t
    else match value with
      | some s => .ok (set s)
      | none => .error .alone
  match Text.lower part.1, part.2 with
  | "version", v => given t.version.isSome v fun s ↦ { t with version := some (withoutQuotes s) }
  | "domain", v => given t.domain.isSome v fun s ↦ { t with domain := some (Text.lower s) }
  | "path", v => given t.path.isSome v fun s ↦ { t with path := some s }
  | "port", v => .ok (if t.port.isSome then t else { t with port := some v })
  | "expires", some s =>
    match Date.read present (withoutQuotes s) with
    | none => .error .all
    | some time => .ok (if t.hasAge || t.expires.isSome then t else { t with expires := time })
  | "max-age", none => .error .all
  | "max-age", some s =>
    match Numeral.int? s with
    | none => .error .alone
    | some age => .ok { t with expires := some (now + age), hasAge := true }
  | _, _ => .ok t

/-! ### Where a request went -/

/-- Where a request went: its host without a port, its path, and the port, if the URL has a place for one. -/
structure Origin where
  host : String
  path : String
  port : Option (Option String)
deriving Repr

/-- A host without a dot is a local one. -/
def Origin.fullHost (o : Origin) : String := if o.host.toList.contains '.' then o.host else o.host ++ ".local"

/-- A path in one way of writing it: percent signs have digits in capitals. -/
def plainPath : List Char → List Char
  | '%' :: a :: b :: rest =>
    if (Text.hexDigit? a).isSome && (Text.hexDigit? b).isSome then '%' :: a.toUpper :: b.toUpper :: plainPath rest
    else '%' :: plainPath (a :: b :: rest)
  | c :: rest =>
    (if Percent.isUnreserved c || "%/;:@&=+$,!*'()".toList.contains c then [c] else Percent.bytes c) ++ plainPath rest
  | [] => []

/-- An authority without its port. -/
def withoutPort (authority : String) : String :=
  let cs := authority.toList.reverse
  let digits := cs.takeWhile Char.isDigit
  match cs.drop digits.length with
  | ':' :: rest => if digits.isEmpty then authority else String.ofList rest.reverse
  | _ => authority

/-- The origin of a request; a URL without a host leaves it to a header to name one. -/
def Origin.ofUrl (u : Url) (header : Option String) : Origin :=
  let authority := u.authority
  let path := String.ofList (plainPath u.path.toList)
  let port : Option String :=
    let behind := authority.toList.dropWhile (· != ':')
    match behind with
    | [] => some "80"
    | _ :: port => if (Numeral.int? (String.ofList port)).isSome then some (String.ofList port) else none
  { host := Text.lower (withoutPort (if authority == "" then header.getD "" else authority))
    path := if path.startsWith "/" then path else "/" ++ path
    port := if authority == "" then none else some port }

/-! ### Cookies of a reply -/

/-- A cookie that may be taken, with what decides on it. -/
structure Offer where
  cookie : Cookie
  version : Int
  namesDomain : Bool
  ports : Option String

/-- The path of a cookie that names none: that of the request up to its last slash. -/
def Origin.directory (o : Origin) (version : Int) : String :=
  let cs := o.path.toList.reverse.dropWhile (· != '/')
  let cs := (if version == 0 then cs.drop 1 else cs).reverse
  if cs.isEmpty then "/" else String.ofList cs

/-- The offer of a cookie, none if it has expired, and the jar without what it stands for then. -/
def offer (now : Int) (o : Origin) (jar : Jar) (name : String) (t : Terms) : Jar × Except Refusal (Option Offer) :=
  match Numeral.int? (t.version.getD "0") with
  | none => (jar, .ok none)
  | some version =>
    let path := match t.path with
      | some p => if p == "" then o.directory version else String.ofList (plainPath p.toList)
      | none => o.directory version
    let domain := match t.domain with
      | some d => if d.startsWith "." then d else "." ++ d
      | none => o.fullHost
    if t.port == some none && o.port.isNone then (jar, .error .all)
    else
      let cookie : Cookie := ⟨domain, path, name⟩
      match t.expires with
      | some time =>
        if time ≤ now then (jar.filter (· != cookie), .ok none)
        else if (Double.ofInt? time).isNone then (jar, .error .all)
        else (jar, .ok (some ⟨cookie, version, t.domain.isSome, t.port.join⟩))
      | none => (jar, .ok (some ⟨cookie, version, t.domain.isSome, t.port.join⟩))

/-- The offers of written cookies in order, none if one of them is refused together with all others. -/
def offers (now : Int) (present : Nat) (o : Origin) (jar : Jar) (written : List String) : Jar × List Offer :=
  let terms := written.filterMap fun text ↦
    match partsOf text with
    | [] => none
    | (name, _) :: parts => some (name, parts.foldlM (Terms.add now present) {})
  if terms.any fun t ↦ t.2 matches .error .all then (jar, [])
  else
    let (jar, found) := terms.foldl (fun (jar, found) (name, t) ↦
      match found, t with
      | .ok offers, .ok t =>
        let (jar, offer) := offer now o jar name t
        (jar, offer.map fun offer ↦ offers ++ offer.toList)
      | found, _ => (jar, found)) (jar, (.ok [] : Except Refusal (List Offer)))
    (jar, match found with
      | .ok offers => offers
      | .error _ => [])

/-- The domain that a cookie names is that of the request, or one above it that has a dot. -/
def Offer.suitsDomain (c : Offer) (o : Origin) : Bool :=
  let domain := c.cookie.domain
  let bare := if domain.startsWith "." then String.ofList (domain.toList.drop 1) else domain
  let host := o.fullHost
  !c.namesDomain
    || ((bare.toList.contains '.' || host.endsWith ".local")
      && (!(c.version == 0 || c.version == 1) || host.endsWith domain || host.endsWith (bare ++ ".local")
        || host.startsWith "." || ("." ++ host).endsWith domain))

/-- The port of the request is one of those that a cookie names, in front of which stand numbers only. -/
def Offer.suitsPort (c : Offer) (o : Origin) : Outcome Bool :=
  match c.ports with
  | none => .ok true
  | some ports =>
    match o.port with
    | none => .error (.plain .missingAttribute)
    | some port =>
      let entries := (String.ofList (ports.toList.filter fun c ↦ !Text.isBlank c)).splitOn ","
      let numbers := entries.takeWhile fun p ↦ (Numeral.int? p).isSome
      .ok (numbers.contains (port.getD "80"))

/-- Cookies of later versions are not taken. -/
def Offer.isTaken (c : Offer) (o : Origin) : Outcome Bool :=
  if 1 < c.version || !c.suitsDomain o then .ok false else c.suitsPort o

/-- The jar with the cookies that a reply leaves. -/
def collect (now : Int) (o : Origin) (jar : Jar) (written : List String) : Outcome Jar :=
  let present := 1970 + now.toNat / 31556952
  let (jar, offers) := offers now present o jar written
  offers.foldlM (fun jar c ↦ do
    return if (← c.isTaken o) && !jar.contains c.cookie then jar ++ [c.cookie] else jar) jar

end Cookie

end Statechart.Http
