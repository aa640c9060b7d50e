/-
# Text.Utf8 -- texts from bytes that may not be UTF-8

A body comes in as bytes.  They are read as UTF-8 from the front: a first byte says how many
bytes follow, and the byte behind it must be in a range that leaves out surrogates, code
points beyond U+10FFFF and longer forms of shorter characters.  Where the bytes are not
UTF-8, a character that was begun becomes one U+FFFD, and the byte that does not continue it
is read as a first byte.  A byte that begins nothing becomes one as well, and so does a
character that the end cuts off.
-/
import SparqlRequest.Text.Basic

set_option autoImplicit false

namespace SparqlRequest.Text

/-- A character that is begun: the bits read so far, how many bytes follow, and the least and
the greatest that the next may be. -/
structure Begun where
  bits : Nat
  missing : Nat
  low : Nat
  high : Nat
  deriving DecidableEq, Repr

/-- What stands for bytes that are not UTF-8. -/
def replacement : Char := '\uFFFD'

/-- The least byte behind a first one: a longer form is for characters that have no shorter. -/
def leastAfter (byte : Nat) : Nat :=
  if byte = 0xE0 then 0xA0 else if byte = 0xF0 then 0x90 else 0x80

/-- The greatest byte behind a first one: no surrogates, and nothing beyond U+10FFFF. -/
def greatestAfter (byte : Nat) : Nat :=
  if byte = 0xED then 0x9F else if byte = 0xF4 then 0x8F else 0xBF

/-- Reads a first byte: the text that it completes, and the character that it begins. -/
def firstOf (byte : Nat) : Text × Option Begun :=
  let begins (bits missing : Nat) : Text × Option Begun :=
    ([], some ⟨bits, missing, leastAfter byte, greatestAfter byte⟩)
  if byte < 0x80 then ([Char.ofNat byte], none)
  else if byte < 0xC2 then ([replacement], none)
  else if byte < 0xE0 then begins (byte - 0xC0) 1
  else if byte < 0xF0 then begins (byte - 0xE0) 2
  else if byte < 0xF5 then begins (byte - 0xF0) 3
  else ([replacement], none)

def nextOf (begun : Option Begun) (byte : Nat) : Text × Option Begun :=
  match begun with
  | none => firstOf byte
  | some character =>
      if character.low ≤ byte ∧ byte ≤ character.high then
        let bits := 64 * character.bits + (byte - 0x80)
        if character.missing ≤ 1 then ([Char.ofNat bits], none)
        else ([], some ⟨bits, character.missing - 1, 0x80, 0xBF⟩)
      else (replacement :: (firstOf byte).1, (firstOf byte).2)

/-- The text of bytes behind a character that is begun. -/
def lossyFrom : Option Begun → List UInt8 → Text
  | none, [] => []
  | some _, [] => [replacement]
  | begun, byte :: bytes =>
      (nextOf begun byte.toNat).1 ++ lossyFrom (nextOf begun byte.toNat).2 bytes

/-- The text of bytes, with U+FFFD for what is not UTF-8. -/
def lossy (bytes : List UInt8) : Text := lossyFrom none bytes

end SparqlRequest.Text
