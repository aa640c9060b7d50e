/-
# Statement.Kind -- queries and updates told apart

An endpoint takes queries and updates through different form fields.  Which of the two a
statement is shows in its first keyword behind the prologue, so that is all that is read.

The prologue is any number of clauses.  A clause is PREFIX or BASE in any letter case,
behind any white space, then anything up to an angle bracket that opens, and everything
from there to the next one that closes, with at least one character in each of the two
stretches.  The keyword is the run of word characters behind the prologue and any white
space, and it is found by leftmost-first matching (`Pattern.capture?`): the longest prologue
that leaves a keyword wins.  A statement whose keyword is PREFIX or BASE itself has a
clause without its IRI; it is malformed, like a statement without any keyword.
-/
import SparqlRequest.Error
import SparqlRequest.Pattern.Basic
import SparqlRequest.Text.Blank
import SparqlRequest.Text.LetterCase
import SparqlRequest.Text.Word

set_option autoImplicit false

namespace SparqlRequest

/-- Whether a statement reads or changes what an endpoint stores. -/
inductive StatementKind where
  | query
  | update
  deriving DecidableEq, Repr

namespace StatementKind

/-- The form field in which an endpoint expects the statement; also the kind in words. -/
def field : StatementKind → Text
  | .query => "query".toList
  | .update => "update".toList

/-- A word in any letter case. -/
def caseless (word : Text) : Pattern := .chain (word.map fun c d => Text.fold d = Text.fold c)

def clause : Pattern :=
  .all
    [.run Text.isBlank,
      .alt (caseless "PREFIX".toList) (caseless "BASE".toList),
      .many (· ≠ '<'),
      .char '<',
      .many (· ≠ '>'),
      .char '>']

/-- The prologue and the white space behind it. -/
def prologue : Pattern := .seq (.star clause) (.run Text.isBlank)

/-- The first word behind the prologue. -/
def keyword? (t : Text) : Option Text := prologue.capture? (.many Text.isWord) t

def clauseKeywords : List Text := ["PREFIX".toList, "BASE".toList]

def updateKeywords : List Text :=
  ["LOAD".toList, "CLEAR".toList, "DROP".toList, "CREATE".toList, "ADD".toList, "MOVE".toList,
    "COPY".toList, "INSERT".toList, "DELETE".toList, "WITH".toList]

def classify (t : Text) : Except Error StatementKind :=
  match (keyword? t).map Text.upper with
  | none => .error (.malformedStatement t)
  | some word =>
      if clauseKeywords.contains word then .error (.malformedStatement t)
      else if updateKeywords.contains word then .ok .update
      else .ok .query

end StatementKind

end SparqlRequest
