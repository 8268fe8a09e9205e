import Idenplane.Security.Classifier

/-! # The client for outbound requests

`safePost` validates a URL, sends a request to the address it validated, and follows
redirects by hand, each through a validation of its own.  Names are resolved and requests are
answered by a network that may answer differently at every hop.
-/

namespace Idenplane.Security

/-- What is read of a parsed `URL`. -/
structure Url where
  protocol : String
  hostname : List Char
  (port pathname search href : String)

structure Platform where
  /-- `new URL(text, base)`. -/
  parseUrl : String → Option Url → Option Url
  toLowerCase : List Char → List Char

structure LookupAddress where
  address : List Char
  family : Nat

/-- A header of a response: Node joins or lists what came more than once. -/
inductive HeaderValue where
  | text (value : String)
  | list (values : List String)

structure PinnedRequestResult where
  statusCode : Nat
  body : String
  location : Option HeaderValue

inductive Failure where
  | ssrfBlocked (message : String)
  | error (message : String)
  /-- What the HTTP stack rejects a request with, the timeout included. -/
  | transport
deriving DecidableEq

structure SafePostResult where
  statusCode : Nat
  body : String
deriving DecidableEq

structure SafeTarget where
  url : Url
  pinnedAddress : List Char
  family : Nat

structure RequestOptions where
  protocol : String
  hostname : List Char
  port : Nat
  path : String
  method : String
  headers : List (String × String)
  lookup : List Char → List Char × Nat
  family : Nat
  servername : Option (List Char)

structure Network where
  /-- `dns.promises.lookup` with all addresses. -/
  lookup : Nat → List Char → Option (List LookupAddress)
  /-- A connection that an earlier request to the host left open is used again. -/
  reuses : Nat → RequestOptions → Bool
  respond : Nat → RequestOptions → String → Except Unit PinnedRequestResult

def SSRF_BLOCKED_MESSAGE : String := "Delivery blocked: target address is not publicly routable"

def MAX_REDIRECT_HOPS : Nat := 3

def REDIRECT_STATUS_CODES : List Nat := [301, 302, 303, 307, 308]

/-- The environment variable `WEBHOOK_ALLOW_PRIVATE_TARGETS` decides. -/
def privateTargetsAllowed (variable_ : Option String) : Bool := variable_ = some "true"

structure Process where
  platform : Platform
  allowPrivateTargets : Option String

/-- The address for a hostname that is no address: the first of the answer that is not blocked. -/
def resolveName (process : Process) (answer : Option (List LookupAddress)) :
    Except Failure LookupAddress :=
  match answer with
  | none => .error (.error "Delivery blocked: DNS resolution failed")
  | some [] => .error (.error "Delivery blocked: DNS resolution returned no addresses")
  | some (first :: others) =>
    let safeRecord :=
      if privateTargetsAllowed process.allowPrivateTargets then some first
      else (first :: others).find? fun record => !isBlockedIp record.address
    match safeRecord with
    | none => .error (.ssrfBlocked SSRF_BLOCKED_MESSAGE)
    | some record => .ok record

def resolveSafeTarget (process : Process) (network : Network) (hop : Nat) (rawUrl : String) :
    Except Failure SafeTarget :=
  match process.platform.parseUrl rawUrl none with
  | none => .error (.ssrfBlocked SSRF_BLOCKED_MESSAGE)
  | some url =>
    if url.protocol ≠ "http:" ∧ url.protocol ≠ "https:" then
      .error (.ssrfBlocked SSRF_BLOCKED_MESSAGE)
    else if !privateTargetsAllowed process.allowPrivateTargets &&
        isBlockedHostnameLiteral process.platform.toLowerCase url.hostname then
      .error (.ssrfBlocked SSRF_BLOCKED_MESSAGE)
    else
      let literalFamily := isIP url.hostname
      if literalFamily = 4 ∨ literalFamily = 6 then
        .ok ⟨url, url.hostname, literalFamily⟩
      else
        match resolveName process (network.lookup hop url.hostname) with
        | .error failure => .error failure
        | .ok record => .ok ⟨url, record.address, if record.family = 6 then 6 else 4⟩

/-- The options of `sendPinnedRequest`. -/
def requestOptions (target : SafeTarget) (headers : List (String × String)) : RequestOptions :=
  let isHttps := target.url.protocol = "https:"
  { protocol := target.url.protocol
    hostname := target.url.hostname
    port :=
      if target.url.port ≠ "" then Numerals.value 10 target.url.port.toList
      else if isHttps then 443 else 80
    path := target.url.pathname ++ target.url.search
    method := "POST"
    headers := headers
    lookup := fun _ => (target.pinnedAddress, target.family)
    family := target.family
    servername := if isHttps then some target.url.hostname else none }

/-- The address that `net.connect` opens a connection to: the host itself when it is an
address, else what `lookup` answers, if that is an address. -/
def connectAddress (options : RequestOptions) : Option (List Char) :=
  let host := if options.hostname.isEmpty then "localhost".toList else options.hostname
  if isIP host ≠ 0 then some host
  else
    let (address, _) := options.lookup host
    if isIP address ≠ 0 then some address else none

/-- A request of the loop: what was validated for it and the connection that was made. -/
structure Hop where
  number : Nat
  rawUrl : String
  target : SafeTarget
  connection : Option (List Char)

def sendPinnedRequest (network : Network) (hop : Nat) (rawUrl : String) (target : SafeTarget)
    (body : String) (headers : List (String × String)) :
    Hop × Except Unit PinnedRequestResult :=
  let options := requestOptions target headers
  if network.reuses hop options then (⟨hop, rawUrl, target, none⟩, network.respond hop options body)
  else
    match connectAddress options with
    | none => (⟨hop, rawUrl, target, none⟩, .error ())
    | some address => (⟨hop, rawUrl, target, some address⟩, network.respond hop options body)

/-- `Array.isArray(location) ? location[0] : location`, where it is truthy. -/
def locationValue (location : Option HeaderValue) : Option String :=
  let value := match location with
    | none => none
    | some (.text value) => some value
    | some (.list values) => values.head?
  value.filter (· ≠ "")

inductive Round where
  | done (res : Except Failure SafePostResult)
  | next (rawUrl : String) (target : SafeTarget)

def afterResponse (process : Process) (network : Network) (hop : Nat) (target : SafeTarget)
    (res : PinnedRequestResult) : Round :=
  if res.statusCode ∉ REDIRECT_STATUS_CODES then .done (.ok ⟨res.statusCode, res.body⟩)
  else
    match locationValue res.location with
    | none => .done (.ok ⟨res.statusCode, res.body⟩)
    | some location =>
      if hop ≥ MAX_REDIRECT_HOPS then
        .done (.error (.ssrfBlocked "Delivery blocked: too many redirects"))
      else
        match process.platform.parseUrl location (some target.url) with
        | none => .done (.error (.ssrfBlocked "Delivery blocked: invalid redirect location"))
        | some nextUrl =>
          match resolveSafeTarget process network (hop + 1) nextUrl.href with
          | .error failure => .done (.error failure)
          | .ok next => .next nextUrl.href next

/-- The loop of `safePost`, with the requests it sent.  The loop itself has no bound: it is
given fuel, and has no result when the fuel runs out. -/
def safePostLoop (process : Process) (network : Network) (body : String)
    (headers : List (String × String)) :
    Nat → Nat → String → SafeTarget → Option (List Hop × Except Failure SafePostResult)
  | 0, _, _, _ => none
  | fuel + 1, hop, rawUrl, target =>
    let (sent, response) := sendPinnedRequest network hop rawUrl target body headers
    match response with
    | .error () => some ([sent], .error .transport)
    | .ok res =>
      match afterResponse process network hop target res with
      | .done outcome => some ([sent], outcome)
      | .next nextUrl next =>
        (safePostLoop process network body headers fuel (hop + 1) nextUrl next).map
          fun (hops, outcome) => (sent :: hops, outcome)

def safePost (process : Process) (network : Network) (fuel : Nat) (rawUrl body : String)
    (headers : List (String × String)) : Option (List Hop × Except Failure SafePostResult) :=
  match resolveSafeTarget process network 0 rawUrl with
  | .error failure => some ([], .error failure)
  | .ok target => safePostLoop process network body headers fuel 0 rawUrl target

end Idenplane.Security
