/-
# Protocol.Message -- requests and replies as bytes

A request is written with its length and asks for the connection to be closed behind the
reply.  A reply is a status line, headers and a body.  Its body is as long as the header
Content-Length says, or comes in chunks, or goes on until the connection closes; replies
with status 204 and 304 have none.  Where the connection closes before the headers end there
is no reply, and where it closes before the body ends, the reply has a status and no body.
-/
import SparqlRequest.Protocol.Address
import SparqlRequest.Protocol.Network

set_option autoImplicit false

namespace SparqlRequest.Http

def Method.word : Method → Text
  | .get => "GET".toList
  | .post => "POST".toList

def Request.message (request : Request) (address : Address) : Text :=
  let line (name value : Text) : Text := name ++ [':', ' '] ++ value ++ ['\r', '\n']
  let content :=
    match request.contentType with
    | none => []
    | some type =>
        line "content-type".toList type ++
          line "content-length".toList (Number.ofNat request.body.length)
  request.method.word ++ ' ' :: address.target ++ " HTTP/1.1\r\n".toList ++
    line "host".toList (address.host ++ ':' :: Number.ofNat address.service) ++ content ++
    line "accept".toList request.accept ++
    line "user-agent".toList request.userAgent ++
    line "connection".toList "close".toList ++ ['\r', '\n'] ++ request.body

def latin (byte : UInt8) : Char := Char.ofNat byte.toNat

/-- The first line of a message, without its line break. -/
def lineOf : Bytes → Option (Text × Bytes)
  | [] => none
  | byte :: rest =>
      if byte = 10 then some ([], rest)
      else (lineOf rest).map fun found =>
        (if byte = 13 ∧ found.1.isEmpty then [] else latin byte :: found.1, found.2)

/-- The headers of a message up to the empty line behind them, names in lower case. -/
def headersOf : Nat → Bytes → Option (List (Text × Text) × Bytes)
  | 0, _ => none
  | steps + 1, bytes => do
      let (line, rest) ← lineOf bytes
      if line.isEmpty then return ([], rest)
      else
        let (name, value) ← Text.cut? ':' line
        let (headers, rest) ← headersOf steps rest
        let trimmed := ((Text.skipBlanks value).reverse.dropWhile Text.isBlank).reverse
        return ((name.map Char.toLower, trimmed) :: headers, rest)

def chunksOf : Nat → Bytes → Option Bytes
  | 0, _ => none
  | steps + 1, bytes => do
      let (line, rest) ← lineOf bytes
      let digits := line.takeWhile fun c => (Number.hexValue? c).isSome
      let size := digits.foldl (fun n c => 16 * n + (Number.hexValue? c).getD 0) 0
      if digits.isEmpty then none
      else if size = 0 then return []
      else if rest.length < size then none
      else
        let (_, next) ← lineOf (rest.drop size)
        let more ← chunksOf steps next
        return rest.take size ++ more

def header? (headers : List (Text × Text)) (name : String) : Option Text :=
  (headers.find? fun header => header.1 = name.toList).map (·.2)

/-- The body of a reply, from its status, its headers and what follows them. -/
def bodyOf (status : Nat) (headers : List (Text × Text)) (rest : Bytes) : Option Bytes :=
  if status = 204 ∨ status = 304 then some []
  else if (header? headers "transfer-encoding").isSome then chunksOf (rest.length + 1) rest
  else
    match header? headers "content-length" with
    | none => some rest
    | some digits =>
        let size := Number.digitsValue digits
        if rest.length < size then none else some (rest.take size)

def statusOf (line : Text) : Option Nat := do
  let version := line.takeWhile (· ≠ ' ')
  let digits := ((line.dropWhile (· ≠ ' ')).drop 1).take 3
  if Text.startsWith "HTTP/".toList version && digits.length = 3 && digits.all Char.isDigit then
    some (Number.digitsValue digits)
  else none

/-- What becomes of a request for a URL, from all bytes that came in before the connection
closed. -/
def Treatment.ofBytes (url : Text) (bytes : Bytes) : Treatment :=
  let reply : Option Reply := do
    let (line, rest) ← lineOf bytes
    let status ← statusOf line
    let (headers, rest) ← headersOf (rest.length + 1) rest
    let location := (header? headers "location").bind (Address.onward? url)
    return ⟨status, location, bodyOf status headers rest⟩
  reply.elim .dropped .replied

end SparqlRequest.Http
