/-
# Json.Writer -- writing JSON

Strings escape the quotation mark, the backslash and the control characters below U+0020,
five of them by a letter and the others by their code.  `compact` writes a value without
white space; `indented` writes each item and member on a line of its own, two spaces
deeper than what holds it, and an empty array or object as its two brackets.
-/
import SparqlRequest.Json.Basic
import SparqlRequest.Number.Written

set_option autoImplicit false

namespace SparqlRequest.Json

def stringChar (c : Char) : Text :=
  if c = '"' then ['\\', '"']
  else if c = '\\' then ['\\', '\\']
  else if c = '\x08' then ['\\', 'b']
  else if c = '\x0C' then ['\\', 'f']
  else if c = '\n' then ['\\', 'n']
  else if c = '\r' then ['\\', 'r']
  else if c = '\t' then ['\\', 't']
  else if c.toNat < 0x10 then "\\u000".toList ++ Nat.toDigits 16 c.toNat
  else if c.toNat < 0x20 then "\\u00".toList ++ Nat.toDigits 16 c.toNat
  else [c]

/-- A string between its quotation marks. -/
def stringText (t : Text) : Text := ['"'] ++ t.flatMap stringChar ++ ['"']

mutual

/-- The value without white space. -/
def compact : Json → Text
  | .null => "null".toList
  | .boolean b => if b then "true".toList else "false".toList
  | .integer i => Number.ofInt i
  | .double negative x => Number.sign negative ++ x.compact
  | .string t => stringText t
  | .array items => ['['] ++ compactItems items ++ [']']
  | .object members => ['\x7b'] ++ compactMembers members ++ ['\x7d']

def compactItems : List Json → Text
  | [] => []
  | [item] => compact item
  | item :: more :: items => compact item ++ [','] ++ compactItems (more :: items)

def compactMembers : List (Text × Json) → Text
  | [] => []
  | [(name, value)] => stringText name ++ [':'] ++ compact value
  | (name, value) :: more :: members =>
      stringText name ++ [':'] ++ compact value ++ [','] ++ compactMembers (more :: members)

end

def newLine (depth : Nat) : Text := '\n' :: List.replicate (2 * depth) ' '

mutual

/-- The value with line breaks; what it holds stands one level deeper than `depth`. -/
def indented (depth : Nat) : Json → Text
  | .null => "null".toList
  | .boolean b => if b then "true".toList else "false".toList
  | .integer i => Number.ofInt i
  | .double negative x => Number.sign negative ++ x.compact
  | .string t => stringText t
  | .array [] => ['[', ']']
  | .array (item :: items) =>
      ['['] ++ newLine (depth + 1) ++ indented (depth + 1) item ++
        indentedItems (depth + 1) items ++ newLine depth ++ [']']
  | .object [] => ['\x7b', '\x7d']
  | .object ((name, value) :: members) =>
      ['\x7b'] ++ newLine (depth + 1) ++ stringText name ++ [':', ' '] ++
        indented (depth + 1) value ++ indentedMembers (depth + 1) members ++
        newLine depth ++ ['\x7d']

def indentedItems (depth : Nat) : List Json → Text
  | [] => []
  | item :: items =>
      [','] ++ newLine depth ++ indented depth item ++ indentedItems depth items

def indentedMembers (depth : Nat) : List (Text × Json) → Text
  | [] => []
  | (name, value) :: members =>
      [','] ++ newLine depth ++ stringText name ++ [':', ' '] ++ indented depth value ++
        indentedMembers depth members

end

end SparqlRequest.Json
