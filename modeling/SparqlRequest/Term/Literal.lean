/-
# Term.Literal -- literals as terms

A literal is a value with or without a datatype.  When the datatype has bare values and
the value is one of them, it is written bare; every other literal is quoted, and a
datatype follows it behind `^^`.  A string literal never has a datatype; it may have a
language tag instead.

A value without NUL is all that a literal asks for.  A datatype is judged before the
value, a language tag after it.
-/
import SparqlRequest.Lexical.Delimiter
import SparqlRequest.Term.Iri

set_option autoImplicit false

namespace SparqlRequest

/-- A value with an optional datatype. -/
structure Literal where
  value : Text
  datatype : Option Iri
  deriving DecidableEq, Repr

namespace Literal

def create (value : Text) : Except Error Literal := do
  let value ← Lexical.checkString value
  return ⟨value, none⟩

def typed (value : Text) (datatype : IriSource) : Except Error Literal :=
  match Iri.create datatype with
  | .error _ => .error (.invalidDatatype datatype)
  | .ok iri => do
      let value ← Lexical.checkString value
      return ⟨value, some iri⟩

def xsd (value : Text) (type : Lexical.BareType) : Literal := ⟨value, some (Iri.xsd type)⟩

/-- The value without quotes, when its datatype lets it be written so. -/
def bare? (literal : Literal) : Option Text :=
  (literal.datatype.bind Iri.bareType?).bind fun type => type.bareForm? literal.value

def format (literal : Literal) : Text :=
  match literal.bare? with
  | some bare => bare
  | none =>
      Lexical.quote literal.value ++
        match literal.datatype with
        | some datatype => ['^', '^'] ++ datatype.format
        | none => []

end Literal

/-- A string with an optional language tag. -/
structure StringLiteral where
  value : Text
  language : Option Text
  deriving DecidableEq, Repr

namespace StringLiteral

def create (value : Text) (language : Option Text) : Except Error StringLiteral := do
  let value ← Lexical.checkString value
  match language with
  | none => return ⟨value, none⟩
  | some tag =>
      if Lexical.isLanguageTag tag then return ⟨value, some tag⟩
      else .error (.invalidLanguageTag tag)

def format (literal : StringLiteral) : Text :=
  Lexical.quote literal.value ++
    match literal.language with
    | some tag => '@' :: tag
    | none => []

end StringLiteral

end SparqlRequest
