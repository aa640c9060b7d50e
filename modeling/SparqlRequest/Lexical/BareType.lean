/-
# Lexical.BareType -- the types whose values can be written without quotes

Four datatypes of XML Schema have values that a statement may hold bare: booleans,
integers, decimals and doubles.  Each has a pattern, and no text fits two of them: a
decimal has a point and no exponent, a double has an exponent, an integer neither.
`bareForm?` is the bare form of a value as a given type, if it has one; it is the value
itself, except that a double without an exponent is given the exponent `e0`.
-/
import SparqlRequest.Pattern.Basic

set_option autoImplicit false

namespace SparqlRequest.Lexical

/-- A datatype with bare values. -/
inductive BareType where
  | boolean
  | integer
  | decimal
  | double
  deriving DecidableEq, Repr

namespace BareType

def localName : BareType → Text
  | .boolean => "boolean".toList
  | .integer => "integer".toList
  | .decimal => "decimal".toList
  | .double => "double".toList

def ofLocalName? (name : Text) : Option BareType :=
  [boolean, integer, decimal, double].find? fun type => type.localName = name

def digitsPattern : Pattern := .many Char.isDigit

def pattern : BareType → Pattern
  | .boolean => .alt (.word "true".toList) (.word "false".toList)
  | .integer => .seq .sign digitsPattern
  | .decimal => .all [.sign, .run Char.isDigit, .char '.', digitsPattern]
  | .double =>
      .all
        [.sign,
          .any
            [.all [digitsPattern, .char '.', .run Char.isDigit],
              .seq (.char '.') digitsPattern,
              digitsPattern],
          .one fun c => c = 'e' || c = 'E',
          .sign,
          digitsPattern]

/-- The text is a bare value of the type as it stands. -/
def accepts (type : BareType) (t : Text) : Bool := type.pattern.matchesAll t

/-- The bare form of a value as a double: an exponent is added where it lacks one. -/
def doubleForm? (t : Text) : Option Text :=
  if double.accepts t then some t
  else if double.accepts (t ++ ['e', '0']) then some (t ++ ['e', '0'])
  else none

/-- The bare form of a value as the given type. -/
def bareForm? (type : BareType) (t : Text) : Option Text :=
  if type = .double then doubleForm? t
  else if type.accepts t then some t
  else none

end BareType

end SparqlRequest.Lexical
