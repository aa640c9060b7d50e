/-
# Json.Reader -- reading JSON

The grammar is that of RFC 8259 and nothing more: white space is space, tab, line feed and
carriage return; strings hold no raw control characters, and an escaped surrogate only as
one of a pair; nothing follows the value but white space.  Arrays and objects nest at most
127 deep.  Of members with the same name the last one counts.

Each reader takes the front of a text and leaves the rest.  Whatever a reader leaves is
shorter than what it took, so the length of the text bounds the number of steps; the bound
is the first argument of the readers that call each other.
-/
import SparqlRequest.Json.Numeral

set_option autoImplicit false

namespace SparqlRequest.Json

/-- How deep arrays and objects may nest. -/
def deepest : Nat := 127

/-- White space between the tokens of JSON. -/
def isGap (c : Char) : Bool := c = ' ' || c = '\t' || c = '\n' || c = '\r'

def skipGaps (t : Text) : Text := t.dropWhile isGap

/-! ## Strings -/

/-- Four hexadecimal digits. -/
def unit? : Text → Option (Nat × Text)
  | a :: b :: c :: d :: t => do
      let a ← Number.hexValue? a
      let b ← Number.hexValue? b
      let c ← Number.hexValue? c
      let d ← Number.hexValue? d
      return (((a * 16 + b) * 16 + c) * 16 + d, t)
  | _ => none

/-- The first unit of a surrogate pair. -/
def isLead (unit : Nat) : Bool := 0xD800 ≤ unit && unit < 0xDC00

/-- The second unit of a surrogate pair. -/
def isTrail (unit : Nat) : Bool := 0xDC00 ≤ unit && unit < 0xE000

/-- The character of one unit, or of a pair of which the second follows in another
escape. -/
def escapedUnit? (t : Text) : Option (Char × Text) := do
  let (unit, rest) ← unit? t
  if isTrail unit then none
  else if isLead unit then
    match rest with
    | '\\' :: 'u' :: more =>
        let (second, rest) ← unit? more
        if isTrail second then
          some (Char.ofNat (0x10000 + (unit - 0xD800) * 0x400 + (second - 0xDC00)), rest)
        else none
    | _ => none
  else some (Char.ofNat unit, rest)

def escaped? : Text → Option (Char × Text)
  | '"' :: t => some ('"', t)
  | '\\' :: t => some ('\\', t)
  | '/' :: t => some ('/', t)
  | 'b' :: t => some ('\x08', t)
  | 'f' :: t => some ('\x0C', t)
  | 'n' :: t => some ('\n', t)
  | 'r' :: t => some ('\r', t)
  | 't' :: t => some ('\t', t)
  | 'u' :: t => escapedUnit? t
  | _ => none

def string? : Nat → Text → Option (Text × Text)
  | 0, _ => none
  | _ + 1, [] => none
  | steps + 1, c :: t =>
      if c = '"' then some ([], t)
      else if c = '\\' then do
        let (character, rest) ← escaped? t
        let (body, rest) ← string? steps rest
        return (character :: body, rest)
      else if c.toNat < 0x20 then none
      else do
        let (body, rest) ← string? steps t
        return (c :: body, rest)

/-! ## Numbers -/

def digits? (t : Text) : Option (Text × Text) :=
  let digits := t.takeWhile Char.isDigit
  if digits.isEmpty then none else some (digits, t.dropWhile Char.isDigit)

def decimals? : Text → Option (Option Text × Text)
  | '.' :: t => (digits? t).map fun found => (some found.1, found.2)
  | t => some (none, t)

def exponent? : Text → Option (Option (Bool × Text) × Text)
  | [] => some (none, [])
  | c :: t =>
      if c = 'e' || c = 'E' then
        let (negative, t) :=
          match t with
          | '-' :: t => (true, t)
          | '+' :: t => (false, t)
          | t => (false, t)
        (digits? t).map fun found => (some (negative, found.1), found.2)
      else some (none, c :: t)

/-- A number without its sign; a zero is its only whole digit if it is the first. -/
def unsigned? (negative : Bool) (t : Text) : Option (Numeral × Text) := do
  let (whole, rest) ← digits? t
  if 1 < whole.length ∧ whole.head? = some '0' then none
  else
    let (decimals, rest) ← decimals? rest
    let (exponent, rest) ← exponent? rest
    return (⟨negative, whole, decimals, exponent⟩, rest)

def number? (t : Text) : Option (Json × Text) := do
  let (numeral, rest) ←
    match t with
    | '-' :: t => unsigned? true t
    | t => unsigned? false t
  let value ← numeral.value?
  return (value, rest)

/-! ## Values -/

/-- The three words of JSON. -/
def constant? (t : Text) : Option (Json × Text) :=
  match Text.after? "null".toList t with
  | some rest => some (.null, rest)
  | none =>
      match Text.after? "true".toList t with
      | some rest => some (.boolean true, rest)
      | none => (Text.after? "false".toList t).map fun rest => (.boolean false, rest)

mutual

/-- A value, with so many levels of nesting left for it. -/
def value? : Nat → Nat → Text → Option (Json × Text)
  | 0, _, _ => none
  | steps + 1, levels, t =>
      match skipGaps t with
      | [] => none
      | c :: rest =>
          if c = '"' then (string? steps rest).map fun found => (.string found.1, found.2)
          else if c = '[' then
            match levels with
            | 0 => none
            | levels + 1 =>
                match skipGaps rest with
                | ']' :: rest => some (.array [], rest)
                | rest => (items? steps levels rest).map fun found => (.array found.1, found.2)
          else if c = '\x7b' then
            match levels with
            | 0 => none
            | levels + 1 =>
                match skipGaps rest with
                | '\x7d' :: rest => some (.object [], rest)
                | rest => members? steps levels [] rest
          else if c = '-' || c.isDigit then number? (c :: rest)
          else constant? (c :: rest)

def items? : Nat → Nat → Text → Option (List Json × Text)
  | 0, _, _ => none
  | steps + 1, levels, t => do
      let (item, rest) ← value? steps levels t
      match skipGaps rest with
      | ']' :: rest => return ([item], rest)
      | ',' :: rest =>
          let (items, rest) ← items? steps levels rest
          return (item :: items, rest)
      | _ => none

/-- The members of an object and its closing brace, put to the members read before. -/
def members? : Nat → Nat → List (Text × Json) → Text → Option (Json × Text)
  | 0, _, _, _ => none
  | steps + 1, levels, earlier, t =>
      match skipGaps t with
      | '"' :: t => do
          let (name, rest) ← string? steps t
          match skipGaps rest with
          | ':' :: rest =>
              let (value, rest) ← value? steps levels rest
              let members := NameMap.insertEntry name value earlier
              match skipGaps rest with
              | '\x7d' :: rest => return (.object members, rest)
              | ',' :: rest => members? steps levels members rest
              | _ => none
          | _ => none
      | _ => none

end

/-- The value that a text holds, and nothing else beside it. -/
def ofText? (t : Text) : Option Json := do
  let (value, rest) ← value? (2 * t.length + 2) deepest t
  if (skipGaps rest).isEmpty then some value else none

end SparqlRequest.Json
