/-
# Text.LetterCase -- letter case, as far as ASCII words can tell

Keywords are ASCII words, and letter case is consulted only to compare a text with
such a word.  Two of Unicode's case maps are involved, and they differ.

* *Simple folding* (`fold`) maps a character to one character.  Besides the capital
  letters, two characters fold to an ASCII letter: the long s U+017F, and the
  Kelvin sign U+212A.
* *Upper-casing* (`upper`) maps a character to one or more.  Besides the small
  letters, these have an ASCII result: the dotless i U+0131, the long s, the sharp s
  U+00DF, and the Latin ligatures U+FB00 to U+FB06.  The Kelvin sign is a capital
  already, so it stays what it is.

A character whose image under a map is not ASCII is left unchanged by it here: no
ASCII word could match it before or after.
-/
import SparqlRequest.Text.Basic

set_option autoImplicit false

namespace SparqlRequest.Text

/-- Simple case folding of a character, where the result is ASCII. -/
def fold (c : Char) : Char :=
  if c = '\u017F' then 's' else if c = '\u212A' then 'k' else c.toLower

/-- Upper-casing of a character, where the result is ASCII. -/
def upperChar (c : Char) : Text :=
  if c = '\u0131' then ['I']
  else if c = '\u017F' then ['S']
  else if c = '\u00DF' then ['S', 'S']
  else if c = '\uFB00' then ['F', 'F']
  else if c = '\uFB01' then ['F', 'I']
  else if c = '\uFB02' then ['F', 'L']
  else if c = '\uFB03' then ['F', 'F', 'I']
  else if c = '\uFB04' then ['F', 'F', 'L']
  else if c = '\uFB05' || c = '\uFB06' then ['S', 'T']
  else [c.toUpper]

def upper (t : Text) : Text := t.flatMap upperChar

end SparqlRequest.Text
