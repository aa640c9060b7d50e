/-
# Protocol.Form -- pairs as a form body

A form body writes each pair as its key, `=` and its value, with `&` between pairs.  On
both sides the bytes of UTF-8 are written as they are if they are unreserved: ASCII
letters, digits, `-`, `_`, `.` and `~`.  Every other byte is `%` and two upper-case
hexadecimal digits.  A space is a byte like any other, so `+` is never written.
-/
import SparqlRequest.Text.Basic

set_option autoImplicit false

namespace SparqlRequest.Form

/-- A character that a form body holds as it is. -/
def isUnreserved (c : Char) : Bool :=
  c.isAlphanum || c = '-' || c = '_' || c = '.' || c = '~'

/-- The upper-case hexadecimal digit of a number below sixteen. -/
def hexDigit (n : Nat) : Char := if n < 10 then Char.ofNat (48 + n) else Char.ofNat (55 + n)

def encodeByte (byte : UInt8) : Text :=
  if byte.toNat < 0x80 ∧ isUnreserved (Char.ofNat byte.toNat) then [Char.ofNat byte.toNat]
  else ['%', hexDigit (byte.toNat / 16), hexDigit (byte.toNat % 16)]

def encodeText (t : Text) : Text := (t.flatMap String.utf8EncodeChar).flatMap encodeByte

def encodePair (pair : Text × Text) : Text := encodeText pair.1 ++ '=' :: encodeText pair.2

/-- The form body of pairs in order. -/
def encode (pairs : List (Text × Text)) : Text := Text.joinWith ['&'] (pairs.map encodePair)

end SparqlRequest.Form
