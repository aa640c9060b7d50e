/-
# Lexical.Delimiter -- what stands around a string literal

A string literal stands between apostrophes, between quotation marks, or between
triples of quotation marks.  The choice looks at the text before it is escaped: a text
with a line feed needs the triple, and so does one with both marks; a text with an
apostrophe takes quotation marks, and every other text takes apostrophes.

`clearOf` tells whether an escaped text keeps clear of a delimiter: reading from the
left, a backslash takes the next character with it, and at no other character does the
delimiter begin.  `guardedQuote` asks that before it puts a literal together; a clash
would mean that a character is missing from the escapes.
-/
import SparqlRequest.Lexical.Escape

set_option autoImplicit false

namespace SparqlRequest.Lexical

/-- What stands around a string literal. -/
inductive Delimiter where
  | apostrophe
  | quotationMark
  | tripled
  deriving DecidableEq, Repr

namespace Delimiter

def text : Delimiter → Text
  | .apostrophe => ['\'']
  | .quotationMark => ['"']
  | .tripled => ['"', '"', '"']

/-- The delimiter for a text that is yet to be escaped. -/
def choose (t : Text) : Delimiter :=
  if t.contains '\n' || (t.contains '\'' && t.contains '"') then .tripled
  else if t.contains '\'' then .quotationMark
  else .apostrophe

end Delimiter

/-- No character outside an escape sequence begins an occurrence of `mark`. -/
def clearOf (mark : Text) : Text → Bool
  | [] => true
  | [c] => c = '\\' || !Text.startsWith mark [c]
  | c :: d :: t =>
      if c = '\\' then clearOf mark t
      else !Text.startsWith mark (c :: d :: t) && clearOf mark (d :: t)

def quote (t : Text) : Text :=
  (Delimiter.choose t).text ++ escape t ++ (Delimiter.choose t).text

/-- A literal that would end before its body does. -/
structure DelimiterClash where
  delimiter : Delimiter
  body : Text
  deriving DecidableEq, Repr

def DelimiterClash.message (clash : DelimiterClash) : Text :=
  "found \x60".toList ++ clash.delimiter.text ++ "\x60 in \x60".toList ++ clash.body ++
    "\x60".toList

/-- The text as a string literal, after a look at whether its delimiter begins in the body. -/
def guardedQuote (t : Text) : Except DelimiterClash Text :=
  let delimiter := Delimiter.choose t
  let body := escape t
  if clearOf delimiter.text body then .ok (delimiter.text ++ body ++ delimiter.text)
  else .error ⟨delimiter, body⟩

end SparqlRequest.Lexical
