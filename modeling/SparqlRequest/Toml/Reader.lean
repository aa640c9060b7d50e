/-
# Toml.Reader -- reading TOML documents

A document is read line by line: an assignment, a header between one or two pairs of
brackets, a comment, or nothing.  Within arrays and inline tables line breaks and comments
may stand between the parts, and a comma may follow the last part.  The grammar is that of
TOML 1.1; a byte order mark before the document is left out.

Arrays and inline tables nest less than eighty deep.  The number of steps is bounded by
the length of the document, as every step takes something away from it.
-/
import SparqlRequest.Toml.Quotation
import SparqlRequest.Toml.Scalar
import SparqlRequest.Toml.Tree

set_option autoImplicit false

namespace SparqlRequest.Toml

/-- How deep arrays and inline tables may nest. -/
def deepest : Nat := 79

def skipGaps (t : Text) : Text := t.dropWhile isGap

def skipComment : Text → Text
  | '#' :: t => t.dropWhile isPlain
  | t => t

/-- The text from the next part of an array or an inline table. -/
def skipTrivia : Nat → Text → Text
  | 0, t => t
  | steps + 1, t =>
      let t := skipComment (skipGaps t)
      match lineBreak? t with
      | some (_, rest) => skipTrivia steps rest
      | none => t

/-! ## Keys -/

/-- A character of a key without quotes. -/
def isKeyChar (c : Char) : Bool := c.isAlphanum || c = '_' || c = '-'

def name? (t : Text) : Option (Text × Text) :=
  match t.takeWhile isKeyChar with
  | [] => shortQuotation? t
  | name => some (name, t.dropWhile isKeyChar)

def key? : Nat → Text → Option (TomlKey × Text)
  | 0, _ => none
  | steps + 1, t => do
      let (name, rest) ← name? (skipGaps t)
      match skipGaps rest with
      | '.' :: rest =>
          let (names, rest) ← key? steps rest
          return (name :: names, rest)
      | rest => return ([name], rest)

/-! ## Values -/

mutual

/-- A value, with so many levels of nesting left for it. -/
def value? : Nat → Nat → Text → Option (Toml × Text)
  | 0, _, _ => none
  | steps + 1, levels, t =>
      match t with
      | [] => none
      | c :: rest =>
          if c = '"' || c = '\'' then
            (quotation? t).map fun found => (.string found.1, found.2)
          else if c = '[' then
            match levels with
            | 0 => none
            | levels + 1 =>
                (items? steps levels rest).map fun found => (.array found.1, found.2)
          else if c = '\x7b' then
            match levels with
            | 0 => none
            | levels + 1 => do
                let (assignments, rest) ← inline? steps levels rest
                let table ← ofInline assignments
                return (table, rest)
          else do
            let (written, rest) := run t
            let value ← ofRun? written
            return (value, rest)

def items? : Nat → Nat → Text → Option (List Toml × Text)
  | 0, _, _ => none
  | steps + 1, levels, t =>
      match skipTrivia (t.length + 1) t with
      | ']' :: rest => some ([], rest)
      | t => do
          let (item, rest) ← value? steps levels t
          match skipTrivia (rest.length + 1) rest with
          | ']' :: rest => return ([item], rest)
          | ',' :: rest =>
              let (items, rest) ← items? steps levels rest
              return (item :: items, rest)
          | _ => none

/-- The assignments of an inline table and its closing brace. -/
def inline? : Nat → Nat → Text → Option (Assignments × Text)
  | 0, _, _ => none
  | steps + 1, levels, t =>
      match skipTrivia (t.length + 1) t with
      | '\x7d' :: rest => some ([], rest)
      | t => do
          let (assignment, rest) ← assignment? steps levels t
          match skipTrivia (rest.length + 1) rest with
          | '\x7d' :: rest => return ([assignment], rest)
          | ',' :: rest =>
              let (assignments, rest) ← inline? steps levels rest
              return (assignment :: assignments, rest)
          | _ => none

/-- A key, an equals sign and a value. -/
def assignment? : Nat → Nat → Text → Option ((TomlKey × Toml) × Text)
  | 0, _, _ => none
  | steps + 1, levels, t => do
      let (key, rest) ← key? (t.length + 1) t
      match skipGaps rest with
      | '=' :: rest =>
          let (value, rest) ← value? steps levels (skipGaps rest)
          return ((key, value), rest)
      | _ => none

end

/-! ## Lines -/

/-- What a line says. -/
inductive Line where
  | assignment (key : TomlKey) (value : Toml)
  | header (key : TomlKey) (item : Bool)

/-- The end of a line: white space, perhaps a comment, and a line break or nothing. -/
def endOfLine? (t : Text) : Option Text :=
  match skipComment (skipGaps t) with
  | [] => some []
  | rest => (lineBreak? rest).map (·.2)

/-- A header, or an assignment. -/
def statement? (t : Text) : Option (Line × Text) :=
  match t with
  | '[' :: '[' :: rest => do
      let (key, rest) ← key? (rest.length + 1) rest
      match skipGaps rest with
      | ']' :: ']' :: rest => return (.header key true, rest)
      | _ => none
  | '[' :: rest => do
      let (key, rest) ← key? (rest.length + 1) rest
      match skipGaps rest with
      | ']' :: rest => return (.header key false, rest)
      | _ => none
  | t => do
      let ((key, value), rest) ← assignment? (2 * t.length + 4) deepest t
      return (.assignment key value, rest)

def lines? : Nat → Text → Option (List Line)
  | 0, _ => none
  | steps + 1, t =>
      match endOfLine? t with
      | some [] => some []
      | some rest => lines? steps rest
      | none => do
          let (line, rest) ← statement? (skipGaps t)
          let rest ← endOfLine? rest
          let lines ← if rest.isEmpty then some [] else lines? steps rest
          return line :: lines

/-- The lines before any header, and the sections. -/
def sectionsOf : List Line → Assignments × List Section
  | [] => ([], [])
  | .assignment key value :: lines =>
      let (first, sections) := sectionsOf lines
      ((key, value) :: first, sections)
  | .header key item :: lines =>
      let (first, sections) := sectionsOf lines
      ([], ⟨key, item, first⟩ :: sections)

/-- The text without a byte order mark before it. -/
def withoutMark : Text → Text
  | '\uFEFF' :: t => t
  | t => t

def document? (t : Text) : Option (List (Text × Toml)) := do
  let body := withoutMark t
  let lines ← lines? (body.length + 1) body
  let (first, sections) := sectionsOf lines
  ofSections first sections

end SparqlRequest.Toml
