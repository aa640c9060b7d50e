/-
# Proofs.Registry.Preamble -- when the declarations can be written, and what they are

Whether a preamble can be written is a matter of its URIs alone, and what it says is a
line for each declaration.  `preamble_eq_ok_iff` separates the two: the preamble of a
registry is written if no URI breaks out of its angle brackets, and then it is
`declarations`.  Otherwise the first such URI is refused (`preamble_eq`).
-/
import SparqlRequest.Proofs.Outcome
import SparqlRequest.Registry.Preamble

set_option autoImplicit false

namespace SparqlRequest.Registry

/-! ## Lines -/

def baseText (uri : Text) : Text := "BASE <".toList ++ uri ++ ['>', '\n']

def prefixText (entry : Text × Text) : Text :=
  "PREFIX ".toList ++ entry.1 ++ ": <".toList ++ entry.2 ++ ['>', '\n']

theorem baseText_ne_nil (uri : Text) : baseText uri ≠ [] :=
  List.append_ne_nil_of_right_ne_nil _ (List.cons_ne_nil _ _)

theorem prefixText_ne_nil (entry : Text × Text) : prefixText entry ≠ [] :=
  List.append_ne_nil_of_right_ne_nil _ (List.cons_ne_nil _ _)

/-- The lines of a registry: its base, then its prefixes in order. -/
def lines (registry : Registry) : List Text :=
  registry.base.toList.map baseText ++ registry.prefixes.map prefixText

def uris (registry : Registry) : List Text :=
  registry.base.toList ++ registry.prefixes.map fun entry => entry.2

/-- The lines, and an empty line behind them if there are any. -/
def declarations (registry : Registry) : Text :=
  if registry.lines = [] then [] else registry.lines.flatten ++ ['\n']

theorem flatten_lines_eq_nil_iff (registry : Registry) :
    registry.lines.flatten = [] ↔ registry.lines = [] := by
  constructor
  · intro empty
    rw [List.flatten_eq_nil_iff] at empty
    rw [List.eq_nil_iff_forall_not_mem]
    intro line member
    have blank := empty line member
    rw [lines, List.mem_append, List.mem_map, List.mem_map] at member
    rcases member with ⟨uri, _, rfl⟩ | ⟨entry, _, rfl⟩
    · exact baseText_ne_nil uri blank
    · exact prefixText_ne_nil entry blank
  · intro empty
    rw [empty]
    rfl

/-! ## Writing them -/

theorem baseLine_eq_ok_iff {base : Option Text} {line : Text} :
    baseLine base = .ok line ↔
      (∀ uri ∈ base.toList, ∀ c ∈ uri, Lexical.breaksOut c = false) ∧
        (base.toList.map baseText).flatten = line := by
  cases base with
  | none => simp [baseLine]
  | some uri =>
      rw [baseLine, bind_eq_ok_iff]
      constructor
      · rintro ⟨passed, checked, written⟩
        obtain ⟨safe, rfl⟩ := Lexical.checkUri_eq_ok_iff.1 checked
        cases written
        rw [Option.toList_some, List.forall_mem_singleton, List.map_singleton,
          List.flatten_singleton]
        exact ⟨safe, rfl⟩
      · rintro ⟨safe, rfl⟩
        rw [Option.toList_some, List.forall_mem_singleton] at safe
        refine ⟨uri, Lexical.checkUri_eq_ok_iff.2 ⟨safe, rfl⟩, ?_⟩
        rw [Option.toList_some, List.map_singleton, List.flatten_singleton]
        rfl

/-- The prefixes are written exactly when all their URIs stay between their brackets. -/
theorem prefixLines_eq_ok_iff {entries : List (Text × Text)} {written : Text} :
    prefixLines entries = .ok written ↔
      (∀ entry ∈ entries, ∀ c ∈ entry.2, Lexical.breaksOut c = false) ∧
        (entries.map prefixText).flatten = written := by
  induction entries generalizing written with
  | nil => simp [prefixLines]
  | cons entry entries ih =>
      obtain ⟨name, uri⟩ := entry
      rw [prefixLines, bind_eq_ok_iff, List.forall_mem_cons]
      constructor
      · rintro ⟨passed, checked, later⟩
        obtain ⟨safe, rfl⟩ := Lexical.checkUri_eq_ok_iff.1 checked
        obtain ⟨rest, restWritten, joined⟩ := bind_eq_ok_iff.1 later
        obtain ⟨restSafe, rfl⟩ := ih.1 restWritten
        cases joined
        rw [List.map_cons, List.flatten_cons]
        exact ⟨⟨safe, restSafe⟩, rfl⟩
      · rintro ⟨⟨safe, restSafe⟩, rfl⟩
        refine ⟨uri, Lexical.checkUri_eq_ok_iff.2 ⟨safe, rfl⟩, bind_eq_ok_iff.2 ?_⟩
        refine ⟨_, ih.2 ⟨restSafe, rfl⟩, ?_⟩
        rw [List.map_cons, List.flatten_cons]
        rfl

/-- **The preamble is written if every URI is safe**, and then it is the declarations. -/
theorem preamble_eq_ok_iff {registry : Registry} {written : Text} :
    registry.preamble = .ok written ↔
      (∀ uri ∈ registry.uris, ∀ c ∈ uri, Lexical.breaksOut c = false) ∧
        registry.declarations = written := by
  have joined : ∀ first rest : Text, first ++ rest = registry.lines.flatten →
      (if (first ++ rest).isEmpty then [] else first ++ rest ++ ['\n']) =
        registry.declarations := by
    intro first rest same
    rw [same, declarations]
    by_cases empty : registry.lines = []
    · simp [empty]
    · have some : registry.lines.flatten ≠ [] :=
        fun flat => empty ((flatten_lines_eq_nil_iff registry).1 flat)
      simp [empty, some]
  rw [preamble, bind_eq_ok_iff, uris, List.forall_mem_append, List.forall_mem_map]
  constructor
  · rintro ⟨first, baseWritten, later⟩
    obtain ⟨rest, prefixesWritten, finished⟩ := bind_eq_ok_iff.1 later
    obtain ⟨baseSafe, rfl⟩ := baseLine_eq_ok_iff.1 baseWritten
    obtain ⟨prefixesSafe, rfl⟩ := prefixLines_eq_ok_iff.1 prefixesWritten
    refine ⟨⟨baseSafe, prefixesSafe⟩, ?_⟩
    rw [← joined _ _ (by rw [lines, List.flatten_append])]
    exact Except.ok.inj finished
  · rintro ⟨⟨baseSafe, prefixesSafe⟩, rfl⟩
    refine ⟨_, baseLine_eq_ok_iff.2 ⟨baseSafe, rfl⟩, bind_eq_ok_iff.2 ?_⟩
    refine ⟨_, prefixLines_eq_ok_iff.2 ⟨prefixesSafe, rfl⟩, ?_⟩
    exact congrArg Except.ok (joined _ _ (by rw [lines, List.flatten_append]))

/-! ## Refusing a URI -/

/-- The first of URIs that would break out of its angle brackets. -/
def firstUnsafe? (uris : List Text) : Option Text :=
  uris.find? fun uri => uri.any Lexical.breaksOut

theorem firstUnsafe?_eq_none_iff {uris : List Text} :
    firstUnsafe? uris = none ↔ ∀ uri ∈ uris, ∀ c ∈ uri, Lexical.breaksOut c = false := by
  simp [firstUnsafe?, List.find?_eq_none]

theorem checkUri_eq_error {uri : Text} (breaks : uri.any Lexical.breaksOut = true) :
    Lexical.checkUri uri = .error (.suspiciousIri uri) := by
  rw [Lexical.checkUri, if_pos breaks]

theorem baseLine_eq_error {base : Option Text} {uri : Text}
    (found : firstUnsafe? base.toList = some uri) :
    baseLine base = .error (.suspiciousIri uri) := by
  cases base with
  | none => cases found
  | some first =>
      rw [firstUnsafe?, Option.toList_some, List.find?_singleton, Option.ite_none_right_eq_some,
        Option.some.injEq] at found
      obtain ⟨breaks, rfl⟩ := found
      rw [baseLine, checkUri_eq_error breaks]
      rfl

/-- The first URI that breaks out is the one that is named. -/
theorem prefixLines_eq_error {entries : List (Text × Text)} {uri : Text}
    (found : firstUnsafe? (entries.map fun entry => entry.2) = some uri) :
    prefixLines entries = .error (.suspiciousIri uri) := by
  induction entries with
  | nil => cases found
  | cons entry entries ih =>
      obtain ⟨name, first⟩ := entry
      rw [firstUnsafe?, List.map_cons, List.find?_cons] at found
      by_cases breaks : first.any Lexical.breaksOut = true
      · simp only [breaks, Option.some.injEq] at found
        subst found
        rw [prefixLines, checkUri_eq_error breaks]
        rfl
      · simp only [breaks] at found
        rw [prefixLines, Lexical.checkUri, if_neg breaks, ih found]
        rfl

/-- **The first unsafe URI is refused**, the base before the prefixes; without one, the
preamble is the declarations. -/
theorem preamble_eq (registry : Registry) :
    registry.preamble =
      (firstUnsafe? registry.uris).elim (.ok registry.declarations) fun uri =>
        .error (.suspiciousIri uri) := by
  cases found : firstUnsafe? registry.uris with
  | none => exact preamble_eq_ok_iff.2 ⟨firstUnsafe?_eq_none_iff.1 found, rfl⟩
  | some uri =>
      rw [firstUnsafe?, uris, List.find?_append, Option.or_eq_some_iff] at found
      rw [preamble, Option.elim_some]
      rcases found with inBase | ⟨safeBase, inPrefixes⟩
      · rw [baseLine_eq_error inBase]
        rfl
      · rw [baseLine_eq_ok_iff.2 ⟨firstUnsafe?_eq_none_iff.1 safeBase, rfl⟩,
          prefixLines_eq_error inPrefixes]
        rfl

end SparqlRequest.Registry
