/-
# Term.Basic -- what can be written into a statement

A term is an IRI, a literal or a string literal.  A `Recipe` says how a term is to be
made: from the source of an IRI, from a value and a datatype, from a value and a language
tag, or from a native value, that is a truth value, an integer of any size, or a double.
`Recipe.build` makes the term or says why there is none.  Native values need no checks:
their texts hold no NUL, and their datatypes are known.
-/
import SparqlRequest.Term.Literal

set_option autoImplicit false

namespace SparqlRequest

/-- What can be written into a statement. -/
inductive Term where
  | iri (iri : Iri)
  | literal (literal : Literal)
  | string (literal : StringLiteral)
  deriving DecidableEq, Repr

/-- A value that becomes the text of a literal. -/
inductive Scalar where
  | text (t : Text)
  | boolean (b : Bool)
  | integer (i : Int)
  | double (x : Binary64)
  deriving DecidableEq, Repr

def Scalar.written : Scalar → Text
  | .text t => t
  | .boolean b => if b then "true".toList else "false".toList
  | .integer i => Number.ofInt i
  | .double x => x.full

/-- A value that carries its datatype with it. -/
inductive Native where
  | boolean (b : Bool)
  | integer (i : Int)
  | double (x : Binary64)
  deriving DecidableEq, Repr

namespace Native

/-- The value as XML Schema writes it, where the infinities have names of their own. -/
def written : Native → Text
  | .boolean b => (Scalar.boolean b).written
  | .integer i => (Scalar.integer i).written
  | .double (.infinite negative) => Number.sign negative ++ "INF".toList
  | .double x => x.full

def type : Native → Lexical.BareType
  | .boolean _ => .boolean
  | .integer _ => .integer
  | .double _ => .double

end Native

namespace Term

def ofNative (value : Native) : Term := .literal (.xsd value.written value.type)

/-- The term as a statement holds it. -/
def format : Term → Text
  | .iri name => name.format
  | .literal scalar => scalar.format
  | .string text => text.format

/-- How a term is to be made. -/
inductive Recipe where
  | iri (source : IriSource)
  | literal (value : Scalar) (datatype : Option IriSource)
  | string (value : Scalar) (language : Option Text)
  | native (value : Native)
  deriving DecidableEq

def Recipe.build : Recipe → Except Error Term
  | .iri source => (Iri.create source).map .iri
  | .literal value none => (Literal.create value.written).map .literal
  | .literal value (some datatype) => (Literal.typed value.written datatype).map .literal
  | .string value language => (StringLiteral.create value.written language).map .string
  | .native value => .ok (ofNative value)

end Term

end SparqlRequest
