/-
# Lexical.Name -- language tags and the two halves of a prefixed name

Language tags and prefix names are given by patterns over ASCII, as in the grammar of
SPARQL.  The local half of a prefixed name is not checked against the grammar; it only
must not hold one of fourteen characters that could end the name or open something else.
-/
import SparqlRequest.Pattern.Basic

set_option autoImplicit false

namespace SparqlRequest.Lexical

/-- Letters, then any number of hyphens each followed by letters or digits. -/
def languageTagPattern : Pattern :=
  .seq (.many Char.isAlpha) (.star (.seq (.char '-') (.many Char.isAlphanum)))

def isLanguageTag (t : Text) : Bool := languageTagPattern.matchesAll t

/-- Nothing, or a letter followed by letters, digits, `_`, `.` and `-`. -/
def labelPattern : Pattern :=
  .optional
    (.seq (.one Char.isAlpha)
      (.run fun c => c.isAlphanum || c = '_' || c = '.' || c = '-'))

/-- A name that may stand before the colon of a prefixed name. -/
def isLabel (t : Text) : Bool := labelPattern.matchesAll t

/-- The characters that may not stand after the colon of a prefixed name. -/
def localForbidden : List Char :=
  ['\x00', ' ', '\t', '\r', '\n', '<', '>', '"', '\x7b', '\x7d', '|', '^', '\x60', '\\']

/-- A name that may stand after the colon of a prefixed name. -/
def isLocalName (t : Text) : Bool := t.all fun c => !localForbidden.contains c

end SparqlRequest.Lexical
