/-
# Protocol.Address -- where a URL leads

A request needs a host, the number of a service on it, and a target.  They are taken from
a URL whose scheme is `http` or `https` in any letter case: behind the scheme and its
slashes stands the host, perhaps behind user information and an `@`, perhaps with a colon
and the number behind it; the rest up to a fragment is the target.  A URL without a host,
with a character that no host has, or with a number beyond 65535 leads nowhere.
-/
import SparqlRequest.Number.Written
import SparqlRequest.Protocol.Form
import SparqlRequest.Text.Blank

set_option autoImplicit false

namespace SparqlRequest

/-- Where a request goes. -/
structure Address where
  /-- The connection is to be encrypted. -/
  encrypted : Bool
  host : Text
  service : Nat
  target : Text
  deriving DecidableEq, Repr

namespace Address

def scheme? (url : Text) : Option (Bool × Text) := do
  let (scheme, rest) ← Text.cut? ':' (url.dropWhile fun c => c.toNat ≤ 0x20)
  let rest := rest.dropWhile (· = '/')
  match String.ofList (scheme.map Char.toLower) with
  | "http" => some (false, rest)
  | "https" => some (true, rest)
  | _ => none

/-- A character that ends the authority of a URL. -/
def endsAuthority (c : Char) : Bool := c = '/' || c = '?' || c = '#'

/-- A character that no host has. -/
def isForbidden (c : Char) : Bool :=
  c.toNat ≤ 0x20 || c = '\x7F' || Text.isBlank c ||
    ['<', '>', '\\', '^', '|', '%', '"', '\x60', '\x7b', '\x7d'].contains c

/-- The number that digits name, or the usual one where there are none. -/
def service? (usual : Nat) (digits : Text) : Option Nat :=
  if !digits.all Char.isDigit then none
  else if digits.isEmpty then some usual
  else if Number.digitsValue digits ≤ 65535 then some (Number.digitsValue digits)
  else none

/-- The target of a request as it is written: bytes that no target may hold are encoded. -/
def targetOf (rest : Text) : Text :=
  let visible := rest.takeWhile (· ≠ '#')
  let rooted := if visible.head? = some '/' then visible else '/' :: visible
  rooted.flatMap fun c =>
    if 0x20 < c.toNat && c.toNat < 0x7F then [c] else Form.encodeText [c]

/-- The host and the number of the service in an authority. -/
def hostAndService? (usual : Nat) (authority : Text) : Option (Text × Nat) :=
  match authority with
  | '[' :: inner => do
      let (host, rest) ← Text.cut? ']' inner
      match rest with
      | [] => some (host, usual)
      | ':' :: digits => (service? usual digits).map fun service => (host, service)
      | _ => none
  | _ =>
      match Text.cut? ':' authority with
      | none => some (authority, usual)
      | some (host, digits) => (service? usual digits).map fun service => (host, service)

/-- The part of an authority behind its user information. -/
def withoutUser (authority : Text) : Text :=
  ((Text.splitOn '@' authority).getLast?).getD authority

def hasScheme (t : Text) : Bool :=
  match Text.cut? ':' t with
  | none => false
  | some (scheme, _) =>
      !scheme.isEmpty && scheme.all fun c => c.isAlphanum || c = '+' || c = '-' || c = '.'

/-- The URL that a reference means which stands in the reply to a request for a URL. -/
def onward? (url reference : Text) : Option Text := do
  if hasScheme reference then return reference
  let (scheme, rest) ← Text.cut? ':' url
  let authority := (rest.dropWhile (· = '/')).takeWhile fun c => !endsAuthority c
  let behind := (rest.dropWhile (· = '/')).drop authority.length
  let path := behind.takeWhile fun c => c ≠ '?' && c ≠ '#'
  let origin := scheme ++ "://".toList ++ authority
  match reference with
  | [] => some url
  | '/' :: '/' :: _ => some (scheme ++ ':' :: reference)
  | '/' :: _ => some (origin ++ reference)
  | '?' :: _ => some (origin ++ path ++ reference)
  | '#' :: _ => some (url.takeWhile (· ≠ '#') ++ reference)
  | _ =>
      -- a relative path takes the place of what follows the last slash
      some (origin ++ (path.reverse.dropWhile (· ≠ '/')).reverse ++ reference)

def ofUrl? (url : Text) : Option Address := do
  let (encrypted, rest) ← scheme? url
  let authority := rest.takeWhile fun c => !endsAuthority c
  let (host, service) ← hostAndService? (if encrypted then 443 else 80) (withoutUser authority)
  if host.isEmpty || host.any isForbidden then none
  else some ⟨encrypted, host, service, targetOf (rest.drop authority.length)⟩

end Address

end SparqlRequest
