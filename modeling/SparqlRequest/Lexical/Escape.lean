/-
# Lexical.Escape -- escape sequences inside a string literal

A string literal writes seven characters as a backslash and a letter or mark: the
backslash itself, both quotation marks, tab, carriage return, backspace and form feed.
All others stand for themselves.  That includes the line feed: a literal that holds one
is written between three quotation marks, where a line may end.
-/
import SparqlRequest.Text.Basic

set_option autoImplicit false

namespace SparqlRequest.Lexical

/-- The letter or mark that stands for a character after a backslash. -/
def escapeLetter? (c : Char) : Option Char :=
  if c = '\\' then some '\\'
  else if c = '\t' then some 't'
  else if c = '\r' then some 'r'
  else if c = '\x08' then some 'b'
  else if c = '\x0C' then some 'f'
  else if c = '"' then some '"'
  else if c = '\'' then some '\''
  else none

def escapeChar (c : Char) : Text :=
  match escapeLetter? c with
  | some letter => ['\\', letter]
  | none => [c]

/-- The characters of a string literal between its delimiters. -/
def escape (t : Text) : Text := t.flatMap escapeChar

theorem escape_nil : escape [] = [] := rfl

theorem escape_cons (c : Char) (t : Text) : escape (c :: t) = escapeChar c ++ escape t := rfl

end SparqlRequest.Lexical
