/-
# Proofs.Registry.Writes -- what a registry holds behind a run of operations

Every operation on a registry comes down to writes, each of a base or of a URI for a name
(`apply_eq`).  A call with a name that is not well known comes down to none.  Two rules meet
in one list of prefixes: the URI of a name is the last that was written for it, and its place
is that of the first write.  `Holds` states both against the list of writes.

* `holds_write`: a write keeps it;
* `holds_after`: so does a run of operations, from the empty registry on;
* `after_holds_writes`: what can be read off a registry, and how each operation fails.
-/
import SparqlRequest.Proofs.Registry.WellKnown

set_option autoImplicit false

namespace SparqlRequest

def Registration.labels : Registration → List Text
  | .base _ => []
  | .one name _ => [name]
  | .several pairs => pairs.map fun pair => pair.1

namespace Registry

/-! ## One declaration -/

def names (registry : Registry) : List Text := registry.prefixes.map fun entry => entry.1

variable {registry : Registry} {name uri : Text}

theorem map_declareIn (name uri : Text) (entries : List (Text × Text)) :
    (declareIn name uri entries).map (fun entry => entry.1) =
      if name ∈ entries.map (fun entry => entry.1) then entries.map fun entry => entry.1
      else entries.map (fun entry => entry.1) ++ [name] := by
  induction entries with
  | nil => rfl
  | cons entry entries ih =>
      by_cases here : entry.1 = name
      · simp [declareIn, here]
      · rw [declareIn, if_neg here, List.map_cons, ih]
        by_cases later : name ∈ entries.map fun entry => entry.1
        · rw [if_pos later, List.map_cons, if_pos (List.mem_cons_of_mem _ later)]
        · have absent : name ∉ (entry :: entries).map fun entry => entry.1 := by
            rw [List.map_cons, List.mem_cons, not_or]
            exact ⟨Ne.symm here, later⟩
          rw [if_neg later, if_neg absent, List.map_cons, List.cons_append]

/-- A declared name keeps its place, a new one goes to the end. -/
theorem names_declare (registry : Registry) (name uri : Text) :
    (registry.declare name uri).names =
      if name ∈ registry.names then registry.names else registry.names ++ [name] :=
  map_declareIn name uri registry.prefixes

theorem mem_names_declare_iff {other : Text} :
    other ∈ (registry.declare name uri).names ↔ other ∈ registry.names ∨ other = name := by
  rw [names_declare]
  split
  · next declared =>
      refine ⟨Or.inl, fun either => either.elim id ?_⟩
      rintro rfl
      exact declared
  · rw [List.mem_append, List.mem_singleton]

theorem mem_names_declareAll_iff {pairs : List (Text × Text)} {other : Text} :
    other ∈ (registry.declareAll pairs).names ↔
      other ∈ registry.names ∨ other ∈ pairs.map fun pair => pair.1 := by
  induction pairs generalizing registry with
  | nil => simp [declareAll]
  | cons pair pairs ih =>
      have unfolded : registry.declareAll (pair :: pairs) =
          (registry.declare pair.1 pair.2).declareAll pairs := rfl
      rw [unfolded, ih, mem_names_declare_iff, List.map_cons, List.mem_cons, or_assoc]

/-- **A registration adds the names that it declares**, and takes none away. -/
theorem mem_names_register_iff {registration : Registration} {other : Text} :
    other ∈ (registry.register registration).names ↔
      other ∈ registry.names ∨ other ∈ registration.labels := by
  cases registration with
  | base uri => exact (or_iff_left (List.not_mem_nil)).symm
  | one name uri =>
      rw [Registration.labels, List.mem_singleton]
      exact mem_names_declare_iff
  | several pairs => exact mem_names_declareAll_iff

/-- What well-known names come to declares nothing but well-known names. -/
theorem labels_of_common? {names : List Text} {registration : Registration}
    (known : common? names = some registration) :
    ∀ label ∈ registration.labels, label ∈ Vocabulary.names := by
  rw [common?] at known
  cases unknown : Vocabulary.firstUnknown? names with
  | some name =>
      rw [unknown] at known
      cases known
  | none =>
      rw [unknown] at known
      cases known
      intro label declared
      rw [Registration.labels, Vocabulary.selection_eq, List.mem_map] at declared
      obtain ⟨pair, selected, rfl⟩ := declared
      obtain ⟨name, _, found⟩ := List.mem_filterMap.1 selected
      obtain ⟨uri, isCommon, rfl⟩ := Option.map_eq_some_iff.1 found
      obtain ⟨entry, listed, rfl⟩ := Option.map_eq_some_iff.1 isCommon
      have same : entry.1 = name := of_decide_eq_true (List.find?_some listed :)
      exact List.mem_map.2 ⟨entry, List.mem_of_find?_eq_some listed, same⟩

/-- No name is declared twice. -/
theorem nodup_names_declare (distinct : registry.names.Nodup) :
    (registry.declare name uri).names.Nodup := by
  rw [names_declare]
  split
  · exact distinct
  · next absent =>
      refine List.nodup_append.2 ⟨distinct, by simp, ?_⟩
      rintro other member _ last rfl
      exact absent (List.mem_singleton.1 last ▸ member)

theorem find?_declareIn (name uri other : Text) (entries : List (Text × Text)) :
    (declareIn name uri entries).find? (fun entry => entry.1 = other) =
      if name = other then some (name, uri)
      else entries.find? fun entry => entry.1 = other := by
  induction entries with
  | nil => by_cases same : name = other <;> simp [declareIn, same]
  | cons entry entries ih =>
      by_cases here : entry.1 = name
      · rw [declareIn, if_pos here]
        by_cases same : name = other
        · simp [same]
        · simp [here, same]
      · rw [declareIn, if_neg here, List.find?_cons, List.find?_cons, ih]
        by_cases same : name = other
        · have passed : decide (entry.1 = other) = false := decide_eq_false (same ▸ here)
          rw [if_pos same, if_pos same, passed]
        · rw [if_neg same, if_neg same]

/-- A declaration changes the URI of its own name alone. -/
theorem uri?_declare (registry : Registry) (name uri other : Text) :
    (registry.declare name uri).uri? other =
      if name = other then some uri else registry.uri? other := by
  rw [uri?, declare, find?_declareIn]
  split
  · rfl
  · rfl

/-- With distinct names, what is found under a name is what is listed for it. -/
theorem uri?_eq_some_iff (distinct : registry.names.Nodup) :
    registry.uri? name = some uri ↔ (name, uri) ∈ registry.prefixes := by
  obtain ⟨base, entries⟩ := registry
  rw [uri?]
  induction entries with
  | nil => simp
  | cons entry entries ih =>
      obtain ⟨first, firstUri⟩ := entry
      rw [names, List.map_cons, List.nodup_cons] at distinct
      rw [List.find?_cons, List.mem_cons, Prod.mk.injEq]
      by_cases here : first = name
      · have absent : (name, uri) ∉ entries := fun member =>
          distinct.1 (here ▸ List.mem_map_of_mem (f := fun entry => entry.1) member)
        simp [here, absent, eq_comm]
      · simp [here, Ne.symm here, ← ih distinct.2]

/-! ## Writes -/

/-- A write of the base, or of the URI of a name. -/
inductive Write where
  | base (uri : Text)
  | entry (name uri : Text)

namespace Write

def base? : Write → Option Text
  | .base uri => some uri
  | .entry _ _ => none

def entry? : Write → Option (Text × Text)
  | .base _ => none
  | .entry name uri => some (name, uri)

def ofPairs (pairs : List (Text × Text)) : List Write := pairs.map fun pair => .entry pair.1 pair.2

end Write

def lastBase? (writes : List Write) : Option Text := (writes.filterMap Write.base?).getLast?

/-- The names and URIs that were written, in order. -/
def written (writes : List Write) : List (Text × Text) := writes.filterMap Write.entry?

/-- The URI that the last of several pairs gives a name. -/
def lastUri? (pairs : List (Text × Text)) (name : Text) : Option Text :=
  (pairs.reverse.find? fun pair => pair.1 = name).map (·.2)

/-- The names of pairs, each where it is met first. -/
def firstNames (pairs : List (Text × Text)) : List Text :=
  (pairs.map fun pair => pair.1).eraseDups

theorem lastBase?_append (writes more : List Write) :
    lastBase? (writes ++ more) = (lastBase? more).or (lastBase? writes) := by
  rw [lastBase?, List.filterMap_append, List.getLast?_append]
  rfl

theorem lastBase?_ofPairs (pairs : List (Text × Text)) :
    lastBase? (Write.ofPairs pairs) = none := by
  rw [lastBase?, List.getLast?_eq_none_iff, Write.ofPairs, List.filterMap_map,
    List.filterMap_eq_nil_iff]
  exact fun _ _ => rfl

theorem written_append (writes more : List Write) :
    written (writes ++ more) = written writes ++ written more := List.filterMap_append

theorem written_ofPairs (pairs : List (Text × Text)) : written (Write.ofPairs pairs) = pairs := by
  rw [written, Write.ofPairs, List.filterMap_map]
  exact List.filterMap_some

theorem lastUri?_append (pairs more : List (Text × Text)) (name : Text) :
    lastUri? (pairs ++ more) name = (lastUri? more name).or (lastUri? pairs name) := by
  rw [lastUri?, List.reverse_append, List.find?_append, Option.map_or]
  rfl

theorem lastUri?_singleton (name uri other : Text) :
    lastUri? [(name, uri)] other = if name = other then some uri else none := by
  by_cases same : name = other
  · simp [lastUri?, same]
  · simp [lastUri?, same]

/-- A name that comes again stays where it was met first. -/
theorem firstNames_append_singleton (pairs : List (Text × Text)) (name uri : Text) :
    firstNames (pairs ++ [(name, uri)]) =
      if name ∈ firstNames pairs then firstNames pairs else firstNames pairs ++ [name] := by
  simp only [firstNames, List.map_append, List.map_singleton, List.eraseDups_append,
    List.mem_eraseDups]
  by_cases met : name ∈ pairs.map fun pair => pair.1
  · rw [if_pos met, List.cons_removeAll, if_neg (by simpa using met)]
    simp
  · rw [if_neg met, List.cons_removeAll, if_pos (by simpa using met)]
    simp [List.eraseDups_cons]

def write (registry : Registry) : Write → Registry
  | .base uri => registry.setBase uri
  | .entry name uri => registry.declare name uri

def writeAll (registry : Registry) (writes : List Write) : Registry := writes.foldl write registry

theorem writeAll_append (registry : Registry) (writes more : List Write) :
    registry.writeAll (writes ++ more) = (registry.writeAll writes).writeAll more :=
  List.foldl_append

/-- A registry holds what was written: the last base, the names in the order of their first
writes, and for each the URI of its last. -/
structure Holds (registry : Registry) (writes : List Write) : Prop where
  base : registry.base = lastBase? writes
  distinct : registry.names.Nodup
  names : registry.names = firstNames (written writes)
  uri? : ∀ name, registry.uri? name = lastUri? (written writes) name

theorem holds_empty : Holds empty [] where
  base := rfl
  distinct := List.nodup_nil
  names := rfl
  uri? _ := rfl

/-- **A write keeps what is held.** -/
theorem holds_write {writes : List Write} (held : Holds registry writes) (write : Write) :
    Holds (registry.write write) (writes ++ [write]) := by
  cases write with
  | base uri =>
      have sameEntries : written (writes ++ [.base uri]) = written writes := by
        rw [written_append]
        exact List.append_nil _
      refine ⟨?_, held.distinct, sameEntries ▸ held.names, sameEntries ▸ held.uri?⟩
      rw [lastBase?_append]
      rfl
  | entry name uri =>
      have moreEntries : written (writes ++ [.entry name uri]) = written writes ++ [(name, uri)] :=
        written_append writes _
      constructor
      · rw [lastBase?_append]
        exact held.base
      · exact nodup_names_declare held.distinct
      · rw [moreEntries, firstNames_append_singleton, ← held.names]
        exact names_declare registry name uri
      · intro other
        rw [moreEntries, lastUri?_append, lastUri?_singleton, ← held.uri?]
        refine (uri?_declare registry name uri other).trans ?_
        split
        · rfl
        · rfl

/-- What holds of a registry and its writes goes on to hold behind further writes. -/
theorem holds_writeAll {writes : List Write} (held : Holds registry writes) (more : List Write) :
    Holds (registry.writeAll more) (writes ++ more) := by
  induction more generalizing registry writes with
  | nil => rwa [List.append_nil]
  | cons write more ih =>
      rw [List.append_cons]
      exact ih (holds_write held write)

theorem Holds.mem_prefixes_iff {writes : List Write} (held : Holds registry writes) :
    (name, uri) ∈ registry.prefixes ↔ lastUri? (written writes) name = some uri := by
  rw [← held.uri?, uri?_eq_some_iff held.distinct]

/-- Nothing is declared only where nothing was written. -/
theorem Holds.isEmpty_iff {writes : List Write} (held : Holds registry writes) :
    registry.isEmpty = true ↔ writes = [] := by
  rw [isEmpty, Bool.and_eq_true, Option.isNone_iff_eq_none, List.isEmpty_iff]
  constructor
  · rintro ⟨noBase, noPrefixes⟩
    cases writes with
    | nil => rfl
    | cons write writes =>
        cases write with
        | base uri =>
            rw [held.base, lastBase?, List.getLast?_eq_none_iff] at noBase
            cases noBase
        | entry name uri =>
            have listed : name ∈ registry.names := by
              rw [held.names, firstNames, List.mem_eraseDups]
              exact List.mem_cons_self
            rw [Registry.names, noPrefixes] at listed
            cases listed
  · rintro rfl
    refine ⟨held.base, ?_⟩
    have noNames := held.names
    exact List.map_eq_nil_iff.1 noNames

/-! ## Operations -/

/-- A step on a registry. -/
inductive Operation where
  | setBase (uri : Text)
  | declare (name uri : Text)
  | register (registration : Registration)
  | registerCommon (names : List Text)

namespace Operation

/-- Why an operation fails: the first of its names that is not well known. -/
def fault? : Operation → Option Error
  | .registerCommon names => (Vocabulary.firstUnknown? names).map .unknownLabel
  | _ => none

/-- What an operation writes; one that fails writes nothing. -/
def writes : Operation → List Write
  | .setBase uri => [.base uri]
  | .declare name uri => [.entry name uri]
  | .register (.base uri) => [.base uri]
  | .register (.one name uri) => [.entry name uri]
  | .register (.several pairs) => Write.ofPairs pairs
  | .registerCommon names =>
      if (Vocabulary.firstUnknown? names).isSome then []
      else Write.ofPairs (Vocabulary.selection names)

end Operation

/-- Carries out an operation, which may fail. -/
def perform (registry : Registry) : Operation → Except Error Registry
  | .setBase uri => .ok (registry.setBase uri)
  | .declare name uri => .ok (registry.declare name uri)
  | .register registration => .ok (registry.register registration)
  | .registerCommon names => registry.registerCommon names

/-- The registry behind an operation; one that fails leaves it as it is. -/
def apply (registry : Registry) (operation : Operation) : Registry :=
  match registry.perform operation with
  | .ok next => next
  | .error _ => registry

/-- The registry behind operations in turn, from the empty one on. -/
def after (operations : List Operation) : Registry := operations.foldl apply empty

theorem declareAll_eq (registry : Registry) (pairs : List (Text × Text)) :
    registry.declareAll pairs = registry.writeAll (Write.ofPairs pairs) := by
  rw [declareAll, writeAll, Write.ofPairs, List.foldl_map]
  rfl

/-- Operations fail for unknown names and for nothing else. -/
theorem perform_eq_error_iff {operation : Operation} {error : Error} :
    registry.perform operation = .error error ↔ operation.fault? = some error := by
  cases operation with
  | registerCommon names =>
      rw [perform, registerCommon_eq, Operation.fault?]
      cases Vocabulary.firstUnknown? names with
      | none => simp
      | some name => simp
  | _ => simp [perform, Operation.fault?]

/-- **An operation comes down to its writes.** -/
theorem apply_eq (registry : Registry) (operation : Operation) :
    registry.apply operation = registry.writeAll operation.writes := by
  cases operation with
  | register registration =>
      cases registration with
      | several pairs => exact declareAll_eq registry pairs
      | _ => rfl
  | registerCommon names =>
      rw [apply, perform, registerCommon_eq, Operation.writes]
      cases Vocabulary.firstUnknown? names with
      | none => exact declareAll_eq registry (Vocabulary.selection names)
      | some name => rfl
  | _ => rfl

/-- An operation adds its writes, and one that fails adds none. -/
theorem holds_apply {writes : List Write} (held : Holds registry writes)
    (operation : Operation) :
    Holds (registry.apply operation) (writes ++ operation.writes) := by
  rw [apply_eq]
  exact holds_writeAll held operation.writes

theorem holds_foldl_apply {writes : List Write} (held : Holds registry writes)
    (operations : List Operation) :
    Holds (operations.foldl apply registry) (writes ++ operations.flatMap Operation.writes) := by
  induction operations generalizing registry writes with
  | nil => rwa [List.flatMap_nil, List.append_nil]
  | cons operation operations ih =>
      rw [List.flatMap_cons, ← List.append_assoc]
      exact ih (holds_apply held operation)

/-- **A run of operations leaves what it wrote**, from the empty registry on. -/
theorem holds_after (operations : List Operation) :
    Holds (after operations) (operations.flatMap Operation.writes) :=
  holds_foldl_apply holds_empty operations

/-- **A registry is its history of writes.**  The base is the last that was written, the
names are distinct and stand in the order of their first writes, and each has the URI of its
last.  Nothing is declared only where nothing was written.  An operation fails for no other
reason than a name that is not well known, and then it leaves no trace. -/
theorem after_holds_writes (operations : List Operation) :
    let registry := after operations
    let writes := operations.flatMap Operation.writes
    registry.base = lastBase? writes ∧
      registry.names.Nodup ∧ registry.names = firstNames (written writes) ∧
      (∀ name uri,
        (name, uri) ∈ registry.prefixes ↔ lastUri? (written writes) name = some uri) ∧
      (∀ name, registry.uri? name = lastUri? (written writes) name) ∧
      (registry.isEmpty = true ↔ writes = []) ∧
      ∀ operation error,
        registry.perform operation = .error error ↔ operation.fault? = some error := by
  intro registry writes
  have held : Holds registry writes := holds_after operations
  exact ⟨held.base, held.distinct, held.names, fun _ _ => held.mem_prefixes_iff, held.uri?,
    held.isEmpty_iff, fun _ _ => perform_eq_error_iff⟩

example :
    after
        [.declare ['b'] ['1'], .setBase ['u'],
          .register (.several [(['a'], ['2']), (['b'], ['3'])]),
          .registerCommon ["rdf".toList, ['z']], .setBase ['v']] =
      ⟨some ['v'], [(['b'], ['3']), (['a'], ['2'])]⟩ := by
  decide

end Registry

end SparqlRequest
