/-
# Protocol.Network -- the way of a request through a network

What becomes of a request that goes out is up to the server: there is no connection, or it
breaks, or a reply comes back with a status, perhaps a place to look instead, and a body
whose last byte may be missing; and it takes its time.  The library follows replies that
redirect.  Behind the statuses 301, 302 and 303 a POST goes on as a GET without its form,
behind 307 and 308 it is repeated as it is; ten redirections are followed and no more, and
the time limit is for all of them together.

`follow` walks that way, over a network that is a function or one that is asked as it goes, and
`travel` from a POST on.  `Library.Lawful` is what the library is known to make of it, and
`Library.through` is a library that does just that.
-/
import SparqlRequest.Protocol.Library
import SparqlRequest.Text.Utf8

set_option autoImplicit false

namespace SparqlRequest.Http

abbrev Bytes := List UInt8

/-! ## Servers -/

/-- A reply of a server. -/
structure Reply where
  status : Nat
  /-- The URL that its header Location leads to. -/
  location : Option Text
  /-- The bytes of the body, unless the connection breaks before the last of them. -/
  body : Option Bytes
  deriving DecidableEq, Repr

/-- What becomes of a request that goes out. -/
inductive Treatment where
  /-- No connection is made. -/
  | refused
  /-- The connection breaks before the head of a reply is there. -/
  | dropped
  | replied (reply : Reply)
  deriving DecidableEq, Repr

/-- What becomes of a request, and how many seconds that takes. -/
structure Visit where
  treatment : Treatment
  seconds : Nat
  deriving DecidableEq, Repr

/-- What becomes of a request.  A server can treat one request differently each time, so the
visits of a way are told apart, by how many more may follow. -/
abbrev Network := Nat → Request → Visit

/-! ## Ways -/

/-- Why nothing comes back for a request, other than that no connection was made. -/
inductive Loss where
  | unusable
  | dropped
  /-- The connection broke in the body of a reply. -/
  | cut (status : Nat)
  | late
  /-- One redirection too many. -/
  | endless
  deriving DecidableEq, Repr

/-- How the way of a request ends. -/
inductive Ending where
  | refused
  | lost (loss : Loss)
  | answered (status : Nat) (body : Bytes)
  deriving DecidableEq, Repr

/-- The requests that servers received, and how it ended. -/
structure Route where
  requests : List Request
  ending : Ending
  deriving DecidableEq, Repr

/-- The request to which a reply redirects. -/
def Request.redirected? (request : Request) (reply : Reply) : Option Request :=
  reply.location.bind fun url =>
    if [301, 302, 303].contains reply.status then
      some { request with method := .get, url := url, contentType := none, body := [] }
    else if [307, 308].contains reply.status then some { request with url := url }
    else none

/-- What a reply that does not redirect comes to. -/
def Reply.ending (reply : Reply) : Ending :=
  match reply.body with
  | none => .lost (.cut reply.status)
  | some body => .answered reply.status body

/-- One visit within a time limit: the way ends, or leads on to another request. -/
def Visit.outcome (visit : Visit) (left : Nat) (request : Request) : Route ⊕ Request :=
  match visit.treatment with
  | .refused => .inl ⟨[], if left < visit.seconds then .lost .late else .refused⟩
  | .dropped => .inl ⟨[request], if left < visit.seconds then .lost .late else .lost .dropped⟩
  | .replied reply =>
      if left < visit.seconds then .inl ⟨[request], .lost .late⟩
      else
        match request.redirected? reply with
        | some next => .inr next
        | none => .inl ⟨[request], reply.ending⟩

/-- Follows a request, for at most so many visits and so many seconds. -/
def follow {m : Type → Type} [Monad m] (usable : Text → Bool)
    (network : Nat → Request → m Visit) : Nat → Nat → Request → m Route
  | 0, _, _ => pure ⟨[], .lost .endless⟩
  | visits + 1, left, request =>
      if !usable request.url then pure ⟨[], .lost .unusable⟩
      else do
        let visit ← network visits request
        match visit.outcome left request with
        | .inl route => pure route
        | .inr next =>
            let rest ← follow usable network visits (left - visit.seconds) next
            pure ⟨request :: rest.requests, rest.ending⟩

/-- A request and ten redirections. -/
def mostVisits : Nat := 11

def Network.way (network : Network) (usable : Text → Bool) (visits left : Nat)
    (request : Request) : Route :=
  (follow usable (fun visits request => pure (network visits request)) visits left request :
    Id Route)

/-- The way of a POST, for a library that takes URLs and header values as told. -/
def travel {m : Type → Type} [Monad m] (usable isValue : Text → Bool)
    (network : Nat → Request → m Visit) (settings : Settings) (post : Post) : m Route :=
  if isValue post.accept then
    follow usable network mostVisits settings.timeoutSeconds (post.request settings)
  else pure ⟨[], .lost .unusable⟩

namespace Library

def route (library : Library) (network : Network) (settings : Settings) (post : Post) : Route :=
  (travel library.acceptsUrl library.acceptsValue
    (fun visits request => pure (network visits request)) settings post : Id Route)

/-- What the library is known to make of the way of a POST.  Only a connection that is not
made counts as a failure to connect; a body is read as UTF-8, with U+FFFD for what is not. -/
structure Lawful (library : Library) (network : Network) : Prop where
  requests : ∀ settings post,
    (library.send settings post).requests = (library.route network settings post).requests
  refused : ∀ settings post, (library.route network settings post).ending = .refused →
    ∃ error, (library.send settings post).received = .error error ∧ error.isConnect = true
  lost : ∀ settings post loss, (library.route network settings post).ending = .lost loss →
    ∃ error, (library.send settings post).received = .error error ∧ error.isConnect = false
  answered : ∀ settings post status body,
    (library.route network settings post).ending = .answered status body →
    (library.send settings post).received = .ok (status, Text.lossy body)

end Library

/-! ## A library -/

/-- A text that a header can have as its value: no control characters but the tab. -/
def isHeaderValue (t : Text) : Bool :=
  t.all fun c => (0x20 ≤ c.toNat || c = '\t') && c ≠ '\x7F'

def Loss.shown : Loss → Text
  | .unusable => "builder error".toList
  | .dropped => "error sending request".toList
  | .cut _ => "error decoding response body".toList
  | .late => "operation timed out".toList
  | .endless => "error following redirect".toList

def Ending.response : Ending → Except NetworkError Response
  | .refused => .error ⟨true, "error sending request".toList⟩
  | .lost (.cut status) => .ok ⟨status, .error ⟨false, (Loss.cut status).shown⟩⟩
  | .lost loss => .error ⟨false, loss.shown⟩
  | .answered status body => .ok ⟨status, .ok (Text.lossy body)⟩

def Route.exchange (route : Route) : Exchange := ⟨route.requests, route.ending.response⟩

/-- A library that finds what it sends at its end already. -/
def Library.answering (usable : Text → Bool) (send : Settings → Post → Exchange) : Library where
  refusal? settings :=
    if isHeaderValue settings.userAgent then none else some "builder error".toList
  acceptsUrl := usable
  acceptsValue := isHeaderValue
  send := send

/-- The library over a network. -/
def Library.through (usable : Text → Bool) (network : Network) : Library :=
  .answering usable fun settings post =>
    (travel usable isHeaderValue (fun visits request => pure (network visits request)) settings
      post : Id Route).exchange

end SparqlRequest.Http
