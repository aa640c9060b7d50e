/-
# Proofs.Registry.WellKnown -- declarations by well-known names

The table of well-known names holds each name once, so looking a name up is finding its row
(`common?_eq_some_iff`).  Names are looked up before anything is declared, so a call with
names either declares what it selects, like any other registration, or names the first that
is not well known and changes nothing.  `registerCommon_eq` says which of the two it is, and
`common?` is the registration that the call comes to.
-/
import SparqlRequest.Registry.Basic

set_option autoImplicit false

namespace SparqlRequest

namespace Vocabulary

/-- The table in the order in which its rows are declared, and the namespace of the datatypes,
which is that of the third row. -/
theorem common_eq :
    common =
        [("rdf".toList, "http://www.w3.org/1999/02/22-rdf-syntax-ns#".toList),
          ("rdfs".toList, "http://www.w3.org/2000/01/rdf-schema#".toList),
          ("xsd".toList, "http://www.w3.org/2001/XMLSchema#".toList),
          ("fn".toList, "http://www.w3.org/2005/xpath-functions#".toList),
          ("sfn".toList, "http://www.w3.org/ns/sparql#".toList)] ∧
      xsd = "http://www.w3.org/2001/XMLSchema#".toList :=
  ⟨rfl, rfl⟩

/-- A name is well known with the namespace that stands beside it, and with no other. -/
theorem common?_eq_some_iff {name uri : Text} :
    common? name = some uri ↔ (name, uri) ∈ common := by
  constructor
  · intro known
    obtain ⟨entry, found, rfl⟩ := Option.map_eq_some_iff.1 known
    have named := List.find?_some found
    obtain rfl : entry.1 = name := of_decide_eq_true named
    exact List.mem_of_find?_eq_some found
  · intro member
    have every : ∀ entry ∈ common, common? entry.1 = some entry.2 := by decide
    exact every (name, uri) member

/-- The first of names that is not well known. -/
def firstUnknown? (names : List Text) : Option Text :=
  names.find? fun name => (common? name).isNone

/-- The well-known among names with their namespaces, in the order of the names. -/
def declarationsOf (names : List Text) : List (Text × Text) :=
  names.filterMap fun name => (common? name).map fun uri => (name, uri)

/-- What a call with names selects: their declarations, or all of them without a name. -/
def selection (names : List Text) : List (Text × Text) :=
  if names = [] then common else declarationsOf names

def names : List Text := common.map fun entry => entry.1

theorem declarationsOf_names : declarationsOf names = common := by decide

theorem firstUnknown?_names : firstUnknown? names = none := by decide

/-- The names that a call with names asks for: all of the table without a name. -/
def asked (names : List Text) : List Text := if names = [] then Vocabulary.names else names

theorem selection_eq (names : List Text) : selection names = declarationsOf (asked names) := by
  rw [selection, asked]
  split
  · exact declarationsOf_names.symm
  · rfl

theorem firstUnknown?_asked (names : List Text) :
    firstUnknown? (asked names) = firstUnknown? names := by
  rw [asked]
  split
  · next none =>
      rw [none]
      exact firstUnknown?_names
  · rfl

/-- Where all names are well known, the declarations are of these names. -/
theorem map_declarationsOf {names : List Text} (known : firstUnknown? names = none) :
    (declarationsOf names).map (fun entry => entry.1) = names := by
  rw [firstUnknown?, List.find?_eq_none] at known
  induction names with
  | nil => rfl
  | cons name names ih =>
      rw [List.forall_mem_cons, Bool.not_eq_true, Option.isNone_eq_false_iff,
        Option.isSome_iff_exists] at known
      obtain ⟨⟨uri, found⟩, later⟩ := known
      rw [declarationsOf, List.filterMap_cons, found, Option.map_some, List.map_cons]
      exact congrArg (name :: ·) (ih later)

end Vocabulary

namespace Registry

open Vocabulary

/-- The names are looked up in turn, and the first unknown one is told. -/
theorem commonPairs_eq (names : List Text) :
    commonPairs names =
      (firstUnknown? names).elim (.ok (declarationsOf names)) fun name =>
        .error (.unknownLabel name) := by
  induction names with
  | nil => rfl
  | cons name names ih =>
      rw [commonPairs, firstUnknown?, List.find?_cons, declarationsOf, List.filterMap_cons]
      cases known : common? name with
      | none => rfl
      | some uri =>
          simp only [Option.isNone_some, Option.map_some]
          rw [ih, firstUnknown?]
          cases names.find? fun name => (common? name).isNone with
          | none => rfl
          | some unknown => rfl

/-- **Well-known names are declared together or not at all.** -/
theorem registerCommon_eq (registry : Registry) (names : List Text) :
    registry.registerCommon names =
      (firstUnknown? names).elim (.ok (registry.register (.several (selection names))))
        fun name => .error (.unknownLabel name) := by
  rw [registerCommon, selection]
  by_cases all : names = []
  · subst all
    rfl
  · rw [if_neg all, if_neg all, commonPairs_eq]
    cases firstUnknown? names with
    | none => rfl
    | some name => rfl

/-- The registration that a call with well-known names comes to, unless it fails. -/
def common? (names : List Text) : Option Registration :=
  match Vocabulary.firstUnknown? names with
  | none => some (.several (Vocabulary.selection names))
  | some _ => none

theorem registerCommon_of_common? {names : List Text} {registration : Registration}
    (known : common? names = some registration) (registry : Registry) :
    registry.registerCommon names = .ok (registry.register registration) := by
  rw [common?] at known
  rw [registerCommon_eq]
  cases found : Vocabulary.firstUnknown? names with
  | none =>
      rw [found] at known
      rw [← Option.some.inj known]
      rfl
  | some name =>
      rw [found] at known
      cases known

theorem registerCommon_of_no_common? {names : List Text} (unknown : common? names = none)
    (registry : Registry) : ∃ error, registry.registerCommon names = .error error := by
  rw [common?] at unknown
  rw [registerCommon_eq]
  cases found : Vocabulary.firstUnknown? names with
  | none =>
      rw [found] at unknown
      cases unknown
  | some name => exact ⟨.unknownLabel name, rfl⟩

end Registry

end SparqlRequest
