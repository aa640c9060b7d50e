/-
# Toml.Quotation -- TOML strings

Strings come in four kinds.  Between quotation marks a backslash starts an escape
sequence; between apostrophes every character stands for itself.  Either mark may be
tripled, and then the string may hold line breaks, a line break right behind the opening
is left out, and one or two marks may stand right before the closing three.  In the
tripled kind with escapes, a backslash at the end of a line takes away the line break and
all white space behind it.  Control characters other than the tab appear in no string.
-/
import SparqlRequest.Number.Written
import SparqlRequest.Toml.Basic

set_option autoImplicit false

namespace SparqlRequest.Toml

/-- A character that strings and comments hold as it is. -/
def isPlain (c : Char) : Bool := c = '\t' || (0x20 ≤ c.toNat && c ≠ '\x7F')

/-- White space within a line. -/
def isGap (c : Char) : Bool := c = ' ' || c = '\t'

/-- A line break at the front of a text: how it is written, and the rest. -/
def lineBreak? : Text → Option (Text × Text)
  | '\n' :: t => some (['\n'], t)
  | '\r' :: '\n' :: t => some (['\r', '\n'], t)
  | _ => none

/-- The character whose code has exactly so many hexadecimal digits; a surrogate is no
character, and neither is a code beyond U+10FFFF. -/
def coded? (count : Nat) (t : Text) : Option (Char × Text) := do
  let values ← (t.take count).mapM Number.hexValue?
  let code := values.foldl (fun n digit => 16 * n + digit) 0
  if values.length = count ∧ code.isValidChar then some (Char.ofNat code, t.drop count)
  else none

def escaped? : Text → Option (Char × Text)
  | 'b' :: t => some ('\x08', t)
  | 't' :: t => some ('\t', t)
  | 'n' :: t => some ('\n', t)
  | 'f' :: t => some ('\x0C', t)
  | 'r' :: t => some ('\r', t)
  | 'e' :: t => some ('\x1B', t)
  | '"' :: t => some ('"', t)
  | '\\' :: t => some ('\\', t)
  | 'x' :: t => coded? 2 t
  | 'u' :: t => coded? 4 t
  | 'U' :: t => coded? 8 t
  | _ => none

/-- White space and line breaks at the front of a text, left out. -/
def skipBreaks : Nat → Text → Text
  | 0, t => t
  | steps + 1, t =>
      let t := t.dropWhile isGap
      match lineBreak? t with
      | some (_, rest) => skipBreaks steps rest
      | none => t

/-- A string on one line behind its opening mark, with or without escape sequences. -/
def lineString? (mark : Char) (escapes : Bool) : Nat → Text → Option (Text × Text)
  | 0, _ => none
  | _ + 1, [] => none
  | steps + 1, c :: t =>
      if c = mark then some ([], t)
      else if c = '\\' && escapes then do
        let (character, rest) ← escaped? t
        let (body, rest) ← lineString? mark escapes steps rest
        return (character :: body, rest)
      else if isPlain c then do
        let (body, rest) ← lineString? mark escapes steps t
        return (c :: body, rest)
      else none

/-- A string between tripled marks behind the opening three. -/
def longString? (mark : Char) (escapes : Bool) : Nat → Text → Option (Text × Text)
  | 0, _ => none
  | _ + 1, [] => none
  | steps + 1, c :: t =>
      if c = mark then
        let marks := (c :: t).takeWhile (· = mark)
        let rest := (c :: t).dropWhile (· = mark)
        if marks.length < 3 then do
          let (body, rest) ← longString? mark escapes steps rest
          return (marks ++ body, rest)
        else some ((marks.drop 3).take 2, List.replicate (marks.length - 5) mark ++ rest)
      else if c = '\\' && escapes then
        match lineBreak? (t.dropWhile isGap) with
        | some (_, rest) => longString? mark escapes steps (skipBreaks (rest.length + 1) rest)
        | none => do
            let (character, rest) ← escaped? t
            let (body, rest) ← longString? mark escapes steps rest
            return (character :: body, rest)
      else if isPlain c then do
        let (body, rest) ← longString? mark escapes steps t
        return (c :: body, rest)
      else
        match lineBreak? (c :: t) with
        | some (written, rest) => do
            let (body, rest) ← longString? mark escapes steps rest
            return (written ++ body, rest)
        | none => none

/-- A string on one line, from its opening mark. -/
def shortQuotation? : Text → Option (Text × Text)
  | '"' :: t => lineString? '"' true (t.length + 1) t
  | '\'' :: t => lineString? '\'' false (t.length + 1) t
  | _ => none

/-- A string behind three opening marks. -/
def longQuotation? (mark : Char) (escapes : Bool) (t : Text) : Option (Text × Text) :=
  let body :=
    match lineBreak? t with
    | some (_, rest) => rest
    | none => t
  longString? mark escapes (body.length + 1) body

def quotation? (t : Text) : Option (Text × Text) :=
  match t with
  | '"' :: '"' :: '"' :: rest => longQuotation? '"' true rest
  | '\'' :: '\'' :: '\'' :: rest => longQuotation? '\'' false rest
  | t => shortQuotation? t

end SparqlRequest.Toml
