/-
# Toml.Basic -- TOML values

A value of TOML 1.1.  Floats, dates and times are kept as they are written; nobody here
calculates with them.  The entries of a table stand in the order in which their keys
first appear.
-/
import SparqlRequest.Text.Basic

set_option autoImplicit false

namespace SparqlRequest

/-- A TOML value. -/
inductive Toml where
  | string (t : Text)
  | integer (i : Int)
  | float (written : Text)
  | boolean (b : Bool)
  | moment (written : Text)
  | array (items : List Toml)
  | table (entries : List (Text × Toml))
  deriving Repr

/-- A key: one or more names with dots between them. -/
abbrev TomlKey := List Text

end SparqlRequest
