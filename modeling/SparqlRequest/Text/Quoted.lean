/-
# Text.Quoted -- a text between quotation marks, as messages show it

A message names a text between double quotation marks.  The mark itself and the
backslash are written after a backslash; NUL, tab, carriage return and line feed
have the short forms `\0`, `\t`, `\r` and `\n`; every other character that a reader
could not see is written as `\u` with its code point in lower-case hexadecimal
between braces.  An apostrophe is shown as it is.
-/
import SparqlRequest.Text.Visible

set_option autoImplicit false

namespace SparqlRequest.Text

/-- The code point in lower-case hexadecimal, without leading zeros. -/
def codeInHex (c : Char) : Text := Nat.toDigits 16 c.toNat

/-- One character as a quoted text shows it. -/
def shownChar (c : Char) : Text :=
  if c = '\x00' then ['\\', '0']
  else if c = '\t' then ['\\', 't']
  else if c = '\r' then ['\\', 'r']
  else if c = '\n' then ['\\', 'n']
  else if c = '"' then ['\\', '"']
  else if c = '\\' then ['\\', '\\']
  else if isVisible c then [c]
  else ['\\', 'u', '\x7b'] ++ codeInHex c ++ ['\x7d']

/-- The text between quotation marks. -/
def quoted (t : Text) : Text := ['"'] ++ t.flatMap shownChar ++ ['"']

end SparqlRequest.Text
