/-
# ConfigFile -- configurations written in TOML

Each setting is a top-level key; settings that are missing keep their standard values, and
an unknown key is refused.  The prefixes of a configuration are an array of tables with a
name and a URI each.  In place of a table an array may stand whose first two items are the
name and the URI.  Such a table may have other keys; what they hold is not looked at,
except that numbers must lie in the range of their kind.
-/
import SparqlRequest.Config
import SparqlRequest.Toml.Reader

set_option autoImplicit false

namespace SparqlRequest.Config

/-! ## Ranges of numbers -/

/-- An integer that can be read at all. -/
def readable (i : Int) : Bool := -(Number.twoTo 127 : Int) ≤ i && i < (Number.twoTo 128 : Int)

/-- The digits of a float before and behind its point, and its exponent. -/
def floatParts (written : Text) : Text × Text × Int :=
  let plain := written.filter fun c => c ≠ '_' && c ≠ '+'
  let unsigned := plain.dropWhile (· = '-')
  let isMark (c : Char) : Bool := c = 'e' || c = 'E'
  let mantissa := unsigned.takeWhile fun c => !isMark c
  let exponent :=
    match (unsigned.dropWhile fun c => !isMark c).drop 1 with
    | '-' :: digits => -(Number.digitsValue digits : Int)
    | digits => (Number.digitsValue digits : Int)
  (mantissa.takeWhile (· ≠ '.'), (mantissa.dropWhile (· ≠ '.')).drop 1, exponent)

/-- A float that does not round beyond the greatest finite double.  The place of its first
digit decides, unless it is close to the limit. -/
def inRange (written : Text) : Bool :=
  if written.any fun c => c = 'n' then true
  else
    let (whole, decimals, exponent) := floatParts written
    let digits := (whole ++ decimals).dropWhile (· = '0')
    let power := exponent - (decimals.length : Int)
    let place := (digits.length : Int) + power
    if digits.isEmpty || place < 300 then true
    else if 320 < place then false
    else
      (Magnitude.nearest (Number.digitsValue digits * Number.tenTo power.toNat)
        (Number.tenTo (-power).toNat)).isSome

mutual

/-- A value that nobody looks at may stand. -/
def acceptable : Toml → Bool
  | .integer i => readable i
  | .float written => inRange written
  | .array items => acceptableItems items
  | .table entries => acceptableEntries entries
  | _ => true

def acceptableItems : List Toml → Bool
  | [] => true
  | item :: items => acceptable item && acceptableItems items

def acceptableEntries : List (Text × Toml) → Bool
  | [] => true
  | (_, value) :: entries => acceptable value && acceptableEntries entries

end

/-! ## Settings -/

def text? : Toml → Option Text
  | .string t => some t
  | _ => none

/-- An integer of sixty-four bits without a sign. -/
def word? : Toml → Option Nat
  | .integer (.ofNat n) => if n < Number.twoTo 64 then some n else none
  | _ => none

def texts? : Toml → Option (List Text)
  | .array items => items.mapM text?
  | _ => none

def valueOf? (entries : List (Text × Toml)) (key : Text) : Option Toml :=
  (entries.find? fun entry => entry.1 = key).map (·.2)

def namedUri? : Toml → Option (Text × Text)
  | .table entries => do
      let name ← (valueOf? entries "name".toList).bind text?
      let uri ← (valueOf? entries "uri".toList).bind text?
      if acceptableEntries entries then some (name, uri) else none
  | .array (name :: uri :: _) => do
      let name ← text? name
      let uri ← text? uri
      return (name, uri)
  | _ => none

def namedUris? : Toml → Option (List (Text × Text))
  | .array items => items.mapM namedUri?
  | _ => none

def withSetting? (config : Config) (entry : Text × Toml) : Option Config :=
  if entry.1 = "endpoint".toList then
    (text? entry.2).map fun t => { config with endpoint := t }
  else if entry.1 = "timeout_secs".toList then
    (word? entry.2).map fun n => { config with timeoutSeconds := n }
  else if entry.1 = "user_agent".toList then
    (text? entry.2).map fun t => { config with userAgent := t }
  else if entry.1 = "accept".toList then
    (text? entry.2).map fun t => { config with accept := t }
  else if entry.1 = "base".toList then
    (text? entry.2).map fun t => { config with base := some t }
  else if entry.1 = "common_prefixes".toList then
    (texts? entry.2).map fun names => { config with commonPrefixes := names }
  else if entry.1 = "prefixes".toList then
    (namedUris? entry.2).map fun pairs => { config with prefixes := pairs }
  else none

/-- The configuration that a text describes; `explain` is what the reader of TOML says of a
text that it refuses. -/
def ofToml (explain : Text → Text) (t : Text) : Except Error Config :=
  match (Toml.document? t).bind fun entries => entries.foldlM withSetting? standard with
  | some config => .ok config
  | none => .error (.config (.notToml (explain t)))

end SparqlRequest.Config
