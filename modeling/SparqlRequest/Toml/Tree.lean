/-
# Toml.Tree -- tables built from keys and headers

A document is a list of sections: first the lines before any header, then each header with
its lines.  What a key or a header may still add to depends on how a table came about, so
tables under construction remember it.

* A table that a path only passed through is *implied*.  A header may still open it, and
  dotted keys may add to it.
* A table that a dotted key created is implied too, but no header may open it.
* A table with a header of its own is complete with its section; other headers may pass
  through it, dotted keys may not.
* An array of tables gains a table with each of its headers; paths pass through the last.
* Every other value, inline tables and arrays included, is closed.
-/
import SparqlRequest.Toml.Basic

set_option autoImplicit false

namespace SparqlRequest.Toml

/-- How a table under construction came about. -/
inductive Origin where
  /-- A header passed through it. -/
  | passed
  /-- A dotted key created it. -/
  | dotted
  /-- It has a header of its own. -/
  | headed
  deriving DecidableEq, Repr

/-- What a key stands for in a document under construction. -/
inductive Node where
  | closed (value : Toml)
  | table (origin : Origin) (entries : List (Text × Node))
  /-- An array of tables, the last one first. -/
  | tables (last : List (Text × Node)) (earlier : List (List (Text × Node)))

abbrev Entries := List (Text × Node)

def Entries.get? (entries : Entries) (name : Text) : Option Node :=
  (entries.find? fun entry => entry.1 = name).map (·.2)

/-- Puts a node under a name: in its place when it is there, and at the end when it is
new. -/
def Entries.put (name : Text) (node : Node) : Entries → Entries
  | [] => [(name, node)]
  | entry :: rest =>
      if entry.1 = name then (name, node) :: rest else entry :: Entries.put name node rest

/-- Changes the entries at the end of a path.  A table that is missing on the way is
created with the given origin; dotted keys do not pass through a table with a header. -/
def descend (origin : Origin) (change : Entries → Option Entries) :
    TomlKey → Entries → Option Entries
  | [], entries => change entries
  | name :: path, entries =>
      match entries.get? name with
      | none =>
          (descend origin change path []).map fun inner =>
            entries.put name (.table origin inner)
      | some (.closed _) => none
      | some (.table found inner) =>
          if origin = .dotted ∧ found = .headed then none
          else
            (descend origin change path inner).map fun inner =>
              entries.put name (.table found inner)
      | some (.tables last earlier) =>
          (descend origin change path last).map fun last =>
            entries.put name (.tables last earlier)

/-- Splits a key into the path to a table and the name in it. -/
def splitKey (key : TomlKey) : Option (TomlKey × Text) :=
  key.getLast?.map fun name => (key.dropLast, name)

/-- Gives a key its value; a key that has one already is refused. -/
def assign (key : TomlKey) (value : Toml) (entries : Entries) : Option Entries := do
  let (path, name) ← splitKey key
  descend .dotted
    (fun inner =>
      match inner.get? name with
      | none => some (inner.put name (.closed value))
      | some _ => none)
    path entries

/-- Keys with their values, in the order in which they are written. -/
abbrev Assignments := List (TomlKey × Toml)

def assignAll (assignments : Assignments) (entries : Entries) : Option Entries :=
  assignments.foldlM (fun entries line => assign line.1 line.2 entries) entries

/-- A header with the lines behind it. -/
structure Section where
  key : TomlKey
  /-- The header adds a table to an array of tables. -/
  item : Bool
  assignments : Assignments

def addSection (part : Section) (entries : Entries) : Option Entries := do
  let (path, name) ← splitKey part.key
  descend .passed
    (fun parent =>
      if part.item then do
        let fresh ← assignAll part.assignments []
        match parent.get? name with
        | none => some (parent.put name (.tables fresh []))
        | some (.tables last earlier) => some (parent.put name (.tables fresh (last :: earlier)))
        | some _ => none
      else
        let filled (start : Entries) : Option Entries :=
          (assignAll part.assignments start).map fun inner =>
            parent.put name (.table .headed inner)
        match parent.get? name with
        | none => filled []
        | some (.table .passed inner) => filled inner
        | some _ => none)
    path entries

mutual

def Node.value : Node → Toml
  | .closed value => value
  | .table _ entries => .table (valuesOf entries)
  | .tables last earlier => .array (tablesOf earlier ++ [.table (valuesOf last)])

def valuesOf : List (Text × Node) → List (Text × Toml)
  | [] => []
  | (name, node) :: rest => (name, node.value) :: valuesOf rest

/-- The tables of an array, the first one first. -/
def tablesOf : List (List (Text × Node)) → List Toml
  | [] => []
  | entries :: earlier => tablesOf earlier ++ [.table (valuesOf entries)]

end

/-- The table of a document: the lines before any header, then the sections. -/
def ofSections (first : Assignments) (sections : List Section) : Option (List (Text × Toml)) := do
  let start ← assignAll first []
  let entries ← sections.foldlM (fun entries part => addSection part entries) start
  return valuesOf entries

def ofInline (assignments : Assignments) : Option Toml :=
  (assignAll assignments []).map fun entries => .table (valuesOf entries)

end SparqlRequest.Toml
