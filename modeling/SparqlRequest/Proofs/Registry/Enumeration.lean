/-
# Proofs.Registry.Enumeration -- a map means the same in whatever order it is listed

A hash table lists its entries in any order.  Two ways lead from such a listing to a meaning:
declarations are sorted by name and then by URI, and the source of an IRI is filled into a map
that is kept in order of the names alone.

Both orders are linear, so a listing has one sorted form for each (`List.Perm.eq_of_pairwise`).
Names do not repeat, so the second text of a pair never decides and the two forms are one.
`NameMap.listing_immaterial` puts this together: there is one ordered map with the entries that
are listed, its names rise in the order of their bytes, and it stands for every listing, for a
registry and for the source of an IRI.
-/
import Mathlib.Data.Char
import Mathlib.Data.List.Induction
import Mathlib.Data.List.Lex
import Mathlib.Data.List.Sort
import Mathlib.Data.Prod.Lex
import SparqlRequest.Proofs.Text.Order
import SparqlRequest.Registry.Preamble
import SparqlRequest.Term.Iri

set_option autoImplicit false

namespace SparqlRequest

/-! ## Maps in order -/

namespace NameMap

theorem names_nodup (map : NameMap) : (map.entries.map (·.1)).Nodup := by
  rw [List.Nodup, List.pairwise_map]
  apply map.sorted.imp
  intro a b lower same
  rw [Text.before_iff_lt, same] at lower
  exact lt_irrefl b.1 lower

/-- Entries come in the order of their names as bytes. -/
theorem utf8_sorted (map : NameMap) :
    map.entries.Pairwise fun a b => Text.utf8 a.1 < Text.utf8 b.1 :=
  map.sorted.imp Text.before_iff_utf8_lt.1

/-- A map is told by its entries, in whatever order they are given. -/
theorem eq_of_perm {map other : NameMap} (same : map.entries.Perm other.entries) : map = other := by
  have entries : map.entries = other.entries := by
    apply List.Perm.eq_of_pairwise _ map.sorted other.sorted same
    intro a b _ _ lower higher
    rw [Text.before_iff_lt] at lower higher
    exact absurd higher (lt_asymm lower)
  cases map
  cases other
  cases entries
  rfl

theorem insertEntry_perm {α : Type} {name : Text} {entries : List (Text × α)}
    (new : name ∉ entries.map (·.1)) (value : α) :
    (insertEntry name value entries).Perm ((name, value) :: entries) := by
  induction entries with
  | nil => exact List.Perm.refl _
  | cons first rest ih =>
      rw [List.map_cons, List.mem_cons, not_or] at new
      rw [insertEntry, if_neg new.1]
      split
      · exact List.Perm.refl _
      · exact ((ih new.2).cons first).trans (List.Perm.swap _ _ _)

theorem entries_ofPairs_append_singleton (pairs : List (Text × Text)) (pair : Text × Text) :
    (ofPairs (pairs ++ [pair])).entries =
      insertEntry pair.1 pair.2 (ofPairs pairs).entries := by
  rw [ofPairs, List.foldl_append]
  rfl

/-- A map that is filled with pairs of distinct names holds these pairs. -/
theorem ofPairs_perm {pairs : List (Text × Text)} (distinct : (pairs.map (·.1)).Nodup) :
    (ofPairs pairs).entries.Perm pairs := by
  induction pairs using List.reverseRecOn with
  | nil => exact List.Perm.refl _
  | append_singleton pairs pair ih =>
      rw [List.map_append, List.map_singleton, List.nodup_append] at distinct
      obtain ⟨front, -, apart⟩ := distinct
      have new : pair.1 ∉ (ofPairs pairs).entries.map (·.1) := by
        rw [((ih front).map _).mem_iff]
        intro member
        exact apart _ member _ (List.mem_singleton_self _) rfl
      have filled : (insertEntry pair.1 pair.2 (ofPairs pairs).entries).Perm (pair :: pairs) :=
        (insertEntry_perm new pair.2).trans ((ih front).cons pair)
      rw [entries_ofPairs_append_singleton]
      exact filled.trans (List.perm_append_singleton pair pairs).symm

end NameMap

/-! ## Sorted declarations -/

namespace Registration

theorem pairBefore_iff_lt {p q : Text × Text} : pairBefore p q = true ↔ toLex p < toLex q := by
  rw [pairBefore, Prod.Lex.toLex_lt_toLex]
  by_cases same : p.1 = q.1
  · rw [if_pos same, Text.before_iff_lt, same]
    simp
  · rw [if_neg same, Text.before_iff_lt]
    simp [same]

theorem not_pairBefore_eq (p q : Text × Text) :
    (!pairBefore q p) = decide (toLex p ≤ toLex q) := by
  rw [Bool.eq_iff_iff, Bool.not_eq_true', decide_eq_true_eq, ← not_lt, ← pairBefore_iff_lt,
    Bool.not_eq_true]

/-- Sorting a listing of a map by name and URI gives the entries in the order of the map. -/
theorem ofUnordered_eq_ofMap {map : NameMap} {listed : List (Text × Text)}
    (lists : listed.Perm map.entries) : ofUnordered listed = ofMap map := by
  have risen : (listed.mergeSort fun p q => !pairBefore q p).Pairwise
      fun p q => toLex p ≤ toLex q := by
    simp only [not_pairBefore_eq]
    exact List.pairwise_mergeSort' (fun p q : Text × Text => toLex p ≤ toLex q) listed
  have rises : map.entries.Pairwise fun p q => toLex p ≤ toLex q := by
    apply map.sorted.imp
    intro p q lower
    exact le_of_lt (Prod.Lex.toLex_lt_toLex.2 (Or.inl (Text.before_iff_lt.1 lower)))
  have same : (listed.mergeSort fun p q => !pairBefore q p) = map.entries := by
    apply List.Perm.eq_of_pairwise _ risen rises ((List.mergeSort_perm _ _).trans lists)
    intro p q _ _ below above
    exact toLex.injective (le_antisymm below above)
  rw [ofUnordered, same, ofMap]

end Registration

/-! ## Any listing of a map -/

namespace NameMap

/-- However its entries are listed, a map is filled to the same map. -/
theorem ofPairs_eq {map : NameMap} {listed : List (Text × Text)}
    (lists : listed.Perm map.entries) : ofPairs listed = map := by
  have distinct : (listed.map (·.1)).Nodup := (lists.map _).nodup_iff.2 map.names_nodup
  exact eq_of_perm ((ofPairs_perm distinct).trans lists)

/-- **A map means the same in whatever order it is listed.**  Entries with distinct names are
those of exactly one ordered map, and its names rise in the order of their bytes.  Every listing
of the entries declares what the map declares, in the same order, so that any registry and its
preamble become the same; and it is the same source of an IRI, with the same IRI or the same
error in the same words. -/
theorem listing_immaterial {entries listed : List (Text × Text)}
    (distinct : (entries.map (·.1)).Nodup) (lists : listed.Perm entries) :
    ∃ map : NameMap,
      (∀ other : NameMap, other.entries.Perm entries ↔ other = map) ∧
        (map.entries.map (·.1)).Nodup ∧
        (map.entries.Pairwise fun a b => Text.utf8 a.1 < Text.utf8 b.1) ∧
        Registration.ofMap map = .several map.entries ∧
        Registration.ofUnordered listed = Registration.ofMap map ∧
        (∀ registry : Registry,
          registry.register (.ofUnordered listed) = registry.register (.ofMap map) ∧
            (registry.register (.ofUnordered listed)).preamble =
              (registry.register (.ofMap map)).preamble) ∧
        IriSource.ofPairs listed = .mapping map ∧
        Iri.create (.ofPairs listed) = Iri.create (.mapping map) ∧
        (Iri.create (.ofPairs listed)).mapError Error.message =
          (Iri.create (.mapping map)).mapError Error.message := by
  have filled : (ofPairs entries).entries.Perm entries := ofPairs_perm distinct
  have listsMap : listed.Perm (ofPairs entries).entries := lists.trans filled.symm
  have sameDeclarations := Registration.ofUnordered_eq_ofMap listsMap
  have sameSource : IriSource.ofPairs listed = .mapping (ofPairs entries) := by
    rw [IriSource.ofPairs, ofPairs_eq listsMap]
  refine ⟨ofPairs entries, ?_, names_nodup _, utf8_sorted _, rfl, sameDeclarations, ?_,
    sameSource, ?_, ?_⟩
  · intro other
    constructor
    · intro same
      exact eq_of_perm (same.trans filled.symm)
    · rintro rfl
      exact filled
  · intro registry
    rw [sameDeclarations]
    exact ⟨rfl, rfl⟩
  · rw [sameSource]
  · rw [sameSource]

/-- U+FF61 comes before U+10000 in the order of bytes, though not in that of UTF-16. -/
theorem listing_immaterial_wide :
    let first : Text × Text := ("\uFF61".toList, "http://a/".toList)
    let second : Text × Text := ([Char.ofNat 0x10000], "http://b/".toList)
    Registration.ofUnordered [second, first] = .several [first, second] ∧
      Iri.create (.ofPairs [second, first]) = .error (.invalidIri (.entryCount 2)) := by
  intro first second
  let ordered : NameMap := ⟨[first, second], List.pairwise_pair.2 (by decide)⟩
  obtain ⟨map, only, -, -, inOrder, declares, -, -, creates, -⟩ :=
    @listing_immaterial [first, second] [second, first] (by decide) (List.Perm.swap _ _ _)
  obtain rfl : ordered = map := (only ordered).1 (List.Perm.refl _)
  exact ⟨declares.trans inOrder, creates⟩

end NameMap

end SparqlRequest
