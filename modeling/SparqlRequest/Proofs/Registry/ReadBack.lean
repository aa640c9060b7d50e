/-
# Proofs.Registry.ReadBack -- declarations read back from a text

`readDeclarations?` reads the front of a statement line by line: a base if the first line
declares one, then a prefix from each line up to an empty one.  It gives the declarations and
the text behind them.  The fields of a line are only partly checked.  A URI may hold anything
but NUL, a line feed and the bracket that closes it, so a line ends where its first line feed
stands and a URI at its first closing bracket; a label holds no colon, so the first colon of
a line ends it.

What a registry writes is read back in front of any text (`readDeclarations?_append`).  The
text behind may begin like more declarations: the empty line comes first.  From that,
`preamble_determines_registry`: a preamble says which registry it is of, and a finished text
says where its preamble ends.
-/
import SparqlRequest.Proofs.Lexical.Name
import SparqlRequest.Proofs.Registry.Preamble
import SparqlRequest.Proofs.Text.Split

set_option autoImplicit false

namespace SparqlRequest.Registry

/-! ## A reader of declarations -/

/-- The URI of a text that is nothing but a URI between angle brackets. -/
def readUri? (t : Text) : Option Text := do
  let inside ← Text.after? ['<'] t
  let parts ← Text.cut? '>' inside
  if parts.2 = [] then return parts.1 else none

def readBase? (line : Text) : Option Text := do
  let bracketed ← Text.after? "BASE ".toList line
  readUri? bracketed

def readPrefix? (line : Text) : Option (Text × Text) := do
  let declared ← Text.after? "PREFIX ".toList line
  let parts ← Text.cut? ':' declared
  let bracketed ← Text.after? [' '] parts.2
  let uri ← readUri? bracketed
  return (parts.1, uri)

/-- The prefixes that lines declare up to an empty one, and the lines behind that. -/
def readPrefixes? : List Text → Option (List (Text × Text) × List Text)
  | [] => none
  | [] :: lines => some ([], lines)
  | line :: lines => do
      let entry ← readPrefix? line
      let found ← readPrefixes? lines
      return (entry :: found.1, found.2)

/-- What lines declare up to an empty one, and the lines behind that. -/
def readLines? (lines : List Text) : Option (Registry × List Text) :=
  match lines.head?.bind readBase? with
  | some base => (readPrefixes? lines.tail).map fun found => (⟨some base, found.1⟩, found.2)
  | none => (readPrefixes? lines).map fun found => (⟨none, found.1⟩, found.2)

/-- What the front of a text declares up to an empty line, and the text behind that. -/
def readDeclarations? (t : Text) : Option (Registry × Text) :=
  (readLines? (Text.splitOn '\n' t)).map fun found => (found.1, Text.joinWith ['\n'] found.2)

/-- What a text declares that is nothing but declarations. -/
def readPreamble? (t : Text) : Option Registry :=
  if t = [] then some empty
  else (readDeclarations? t).bind fun found => if found.2 = [] then some found.1 else none

/-! ## Lines -/

/-- The line that declares a base, without its end. -/
def baseLineText (uri : Text) : Text := "BASE <".toList ++ (uri ++ ['>'])

def prefixLineText (entry : Text × Text) : Text :=
  "PREFIX ".toList ++ (entry.1 ++ (": <".toList ++ (entry.2 ++ ['>'])))

theorem baseText_eq_line (uri : Text) : baseText uri = baseLineText uri ++ ['\n'] := by
  unfold baseText baseLineText
  simp only [List.append_assoc]
  rfl

theorem prefixText_eq_line (entry : Text × Text) :
    prefixText entry = prefixLineText entry ++ ['\n'] := by
  unfold prefixText prefixLineText
  simp only [List.append_assoc]
  rfl

variable {uri : Text} {entry : Text × Text}

theorem readUri?_bracketed (closed : '>' ∉ uri) : readUri? ('<' :: (uri ++ ['>'])) = some uri := by
  have inside : Text.after? ['<'] ('<' :: (uri ++ ['>'])) = some (uri ++ ['>']) :=
    Text.after?_eq_some_iff.2 rfl
  have cut : Text.cut? '>' (uri ++ ['>']) = some (uri, []) :=
    Text.cut?_eq_some_iff.2 ⟨rfl, closed⟩
  simp [readUri?, inside, cut]

theorem readBase?_baseLineText (closed : '>' ∉ uri) : readBase? (baseLineText uri) = some uri := by
  have bracketed : Text.after? "BASE ".toList (baseLineText uri) = some ('<' :: (uri ++ ['>'])) :=
    Text.after?_eq_some_iff.2 rfl
  rw [readBase?, bracketed]
  exact readUri?_bracketed closed

/-- The line of a prefix is never taken for that of a base. -/
theorem readBase?_prefixLineText (entry : Text × Text) : readBase? (prefixLineText entry) = none :=
  rfl

theorem readPrefix?_prefixLineText (label : ':' ∉ entry.1) (closed : '>' ∉ entry.2) :
    readPrefix? (prefixLineText entry) = some entry := by
  have declared : Text.after? "PREFIX ".toList (prefixLineText entry) =
      some (entry.1 ++ ':' :: ' ' :: '<' :: (entry.2 ++ ['>'])) :=
    Text.after?_eq_some_iff.2 rfl
  have cut : Text.cut? ':' (entry.1 ++ ':' :: ' ' :: '<' :: (entry.2 ++ ['>'])) =
      some (entry.1, ' ' :: '<' :: (entry.2 ++ ['>'])) :=
    Text.cut?_eq_some_iff.2 ⟨rfl, label⟩
  have bracketed : Text.after? [' '] (' ' :: '<' :: (entry.2 ++ ['>'])) =
      some ('<' :: (entry.2 ++ ['>'])) :=
    Text.after?_eq_some_iff.2 rfl
  rw [readPrefix?, declared]
  simp [cut, bracketed, readUri?_bracketed closed]

/-! ## Reading what was written -/

/-- The names of a registry are labels, as prefixed names have them. -/
def Labelled (registry : Registry) : Prop :=
  ∀ entry ∈ registry.prefixes, Lexical.isLabel entry.1 = true

/-- A URI that does not stay between its angle brackets. -/
def BreaksOut (uri : Text) : Prop := '\x00' ∈ uri ∨ '\n' ∈ uri ∨ '>' ∈ uri

theorem any_breaksOut_iff : uri.any Lexical.breaksOut = true ↔ BreaksOut uri := by
  simp only [List.any_eq_true, Lexical.breaksOut, Bool.or_eq_true, decide_eq_true_eq, BreaksOut]
  constructor
  · rintro ⟨c, member, (rfl | rfl) | rfl⟩
    · exact Or.inl member
    · exact Or.inr (Or.inl member)
    · exact Or.inr (Or.inr member)
  · rintro (member | member | member)
    · exact ⟨_, member, Or.inl (Or.inl rfl)⟩
    · exact ⟨_, member, Or.inl (Or.inr rfl)⟩
    · exact ⟨_, member, Or.inr rfl⟩

theorem firstUnsafe?_eq_some_iff {uris : List Text} :
    firstUnsafe? uris = some uri ↔
      BreaksOut uri ∧ ∃ before after, uris = before ++ uri :: after ∧
        ∀ earlier ∈ before, ¬ BreaksOut earlier := by
  simp only [firstUnsafe?, List.find?_eq_some_iff_append, Bool.not_eq_true',
    ← Bool.not_eq_true, any_breaksOut_iff]

variable {registry : Registry}

/-- The lines of a registry without their ends. -/
def lineTexts (registry : Registry) : List Text :=
  registry.base.toList.map baseLineText ++ registry.prefixes.map prefixLineText

theorem lines_eq_lineTexts (registry : Registry) :
    registry.lines = registry.lineTexts.map (· ++ ['\n']) := by
  rw [lines, lineTexts, List.map_append, List.map_map, List.map_map]
  congr 1
  · exact List.map_congr_left fun uri _ => baseText_eq_line uri
  · exact List.map_congr_left fun entry _ => prefixText_eq_line entry

theorem isEmpty_eq_false_iff : registry.isEmpty = false ↔ registry.lines ≠ [] := by
  obtain ⟨base, entries⟩ := registry
  cases base with
  | none => cases entries <;> simp [isEmpty, lines]
  | some uri => simp [isEmpty, lines]

theorem eq_empty_of_isEmpty (nothing : registry.isEmpty = true) : registry = empty := by
  obtain ⟨base, entries⟩ := registry
  rw [isEmpty, Bool.and_eq_true, Option.isNone_iff_eq_none, List.isEmpty_iff] at nothing
  obtain ⟨rfl, rfl⟩ := nothing
  rfl

/-- A registry whose declarations can be told apart: labels as names, and URIs that stay
between their brackets. -/
structure Readable (registry : Registry) : Prop where
  labelled : registry.Labelled
  safe : ∀ uri ∈ registry.uris, ¬ BreaksOut uri

theorem Readable.prefixes (readable : registry.Readable) :
    ∀ entry ∈ registry.prefixes, ':' ∉ entry.1 ∧ '\n' ∉ entry.1 ∧ ¬ BreaksOut entry.2 := by
  intro entry member
  have label := readable.labelled entry member
  refine ⟨Lexical.colon_not_mem_of_isLabel label, fun lineFeed => ?_, ?_⟩
  · exact absurd (Lexical.isLabelChar_of_isLabel label '\n' lineFeed) (by decide)
  · exact readable.safe _ (List.mem_append_right _ (List.mem_map_of_mem member))

theorem Readable.base (readable : registry.Readable) :
    ∀ uri ∈ registry.base, ¬ BreaksOut uri := fun uri member =>
  readable.safe uri (List.mem_append_left _ (Option.mem_toList.2 member))

/-- A line ends where its text ends. -/
theorem Readable.not_mem_lineTexts (readable : registry.Readable) :
    ∀ line ∈ registry.lineTexts, '\n' ∉ line := by
  intro line member
  rw [lineTexts, List.mem_append, List.mem_map, List.mem_map] at member
  rcases member with ⟨uri, inside, rfl⟩ | ⟨entry, inside, rfl⟩
  · have safe := readable.base uri (Option.mem_toList.1 inside)
    simp only [BreaksOut, not_or] at safe
    unfold baseLineText
    simp [safe]
  · obtain ⟨-, label, safe⟩ := readable.prefixes entry inside
    simp only [BreaksOut, not_or] at safe
    unfold prefixLineText
    simp [label, safe]

theorem readPrefixes?_lineTexts {entries : List (Text × Text)}
    (labels : ∀ entry ∈ entries, ':' ∉ entry.1) (closed : ∀ entry ∈ entries, '>' ∉ entry.2)
    (rest : List Text) :
    readPrefixes? (entries.map prefixLineText ++ [] :: rest) = some (entries, rest) := by
  induction entries with
  | nil => rfl
  | cons entry entries ih =>
      rw [List.forall_mem_cons] at labels closed
      have first := readPrefix?_prefixLineText labels.1 closed.1
      have later := ih labels.2 closed.2
      rw [List.map_cons, List.cons_append, readPrefixes?]
      · rw [first, later]
        rfl
      · exact List.cons_ne_nil _ _

/-- The lines are read up to the empty one behind them, whatever follows. -/
theorem Readable.readLines?_lineTexts (readable : registry.Readable)
    (something : registry.isEmpty = false) (rest : List Text) :
    readLines? (registry.lineTexts ++ [] :: rest) = some (registry, rest) := by
  have labels : ∀ entry ∈ registry.prefixes, ':' ∉ entry.1 := fun entry member =>
    (readable.prefixes entry member).1
  have closed : ∀ entry ∈ registry.prefixes, '>' ∉ entry.2 := fun entry member bracket =>
    (readable.prefixes entry member).2.2 (Or.inr (Or.inr bracket))
  have prefixesRead := readPrefixes?_lineTexts labels closed rest
  have baseClosed := readable.base
  obtain ⟨base, entries⟩ := registry
  cases base with
  | some uri =>
      have baseRead : readBase? (baseLineText uri) = some uri :=
        readBase?_baseLineText fun bracket => baseClosed uri rfl (Or.inr (Or.inr bracket))
      simp [readLines?, lineTexts, baseRead, prefixesRead]
  | none =>
      cases entries with
      | nil => cases something
      | cons entry entries =>
          rw [List.map_cons, List.cons_append] at prefixesRead
          simp [readLines?, lineTexts, readBase?_prefixLineText, prefixesRead]

/-- **Declarations are read back in front of any text.** -/
theorem Readable.readDeclarations?_append (readable : registry.Readable)
    (something : registry.isEmpty = false) (t : Text) :
    readDeclarations? (registry.declarations ++ t) = some (registry, t) := by
  have split : Text.splitOn '\n' (registry.declarations ++ t) =
      registry.lineTexts ++ [] :: Text.splitOn '\n' t := by
    rw [declarations, if_neg (isEmpty_eq_false_iff.1 something), lines_eq_lineTexts,
      List.append_assoc, Text.splitOn_lines_append readable.not_mem_lineTexts]
    rfl
  rw [readDeclarations?, split, readable.readLines?_lineTexts something, Option.map_some,
    Text.joinWith_splitOn]

theorem Readable.readPreamble?_declarations (readable : registry.Readable) :
    readPreamble? registry.declarations = some registry := by
  cases something : registry.isEmpty with
  | true =>
      rw [eq_empty_of_isEmpty something]
      rfl
  | false =>
      have written : registry.declarations ≠ [] := by
        rw [declarations, if_neg (isEmpty_eq_false_iff.1 something)]
        exact List.append_ne_nil_of_right_ne_nil _ (List.cons_ne_nil _ _)
      have read := readable.readDeclarations?_append something []
      rw [List.append_nil] at read
      rw [readPreamble?, if_neg written, read]
      rfl

/-- A registry of labels that has a preamble can be read back from it. -/
theorem Labelled.readable_of_preamble {preamble : Text} (labelled : registry.Labelled)
    (written : registry.preamble = .ok preamble) :
    registry.Readable ∧ registry.declarations = preamble := by
  obtain ⟨safe, same⟩ := preamble_eq_ok_iff.1 written
  refine ⟨⟨labelled, fun uri member breaks => ?_⟩, same⟩
  obtain ⟨c, inside, isBad⟩ := List.any_eq_true.1 (any_breaksOut_iff.2 breaks)
  rw [safe uri member c inside] at isBad
  cases isBad

theorem preamble_eq_error_iff {error : Error} :
    registry.preamble = .error error ↔
      ∃ before uri after, registry.uris = before ++ uri :: after ∧
        (∀ earlier ∈ before, ¬ BreaksOut earlier) ∧ BreaksOut uri ∧
        error = .suspiciousIri uri := by
  rw [preamble_eq]
  constructor
  · intro failed
    cases found : firstUnsafe? registry.uris with
    | none =>
        rw [found] at failed
        cases failed
    | some uri =>
        rw [found] at failed
        obtain ⟨breaks, before, after, same, safe⟩ := firstUnsafe?_eq_some_iff.1 found
        exact ⟨before, uri, after, same, safe, breaks, (Except.error.inj failed).symm⟩
  · rintro ⟨before, uri, after, same, safe, breaks, rfl⟩
    rw [firstUnsafe?_eq_some_iff.2 ⟨breaks, before, after, same, safe⟩]
    rfl

/-- A preamble fails only for a URI that breaks out. -/
theorem exists_preamble_error_iff :
    (∃ error, registry.preamble = .error error) ↔ ∃ uri ∈ registry.uris, BreaksOut uri := by
  rw [preamble_eq]
  cases found : firstUnsafe? registry.uris with
  | none =>
      have safe : ∀ uri ∈ registry.uris, ¬ BreaksOut uri := by
        simpa only [firstUnsafe?, List.find?_eq_none, any_breaksOut_iff] using found
      simpa using safe
  | some uri =>
      obtain ⟨breaks, before, after, same, -⟩ := firstUnsafe?_eq_some_iff.1 found
      have member : uri ∈ registry.uris := same ▸ List.mem_append_right _ List.mem_cons_self
      exact iff_of_true ⟨_, rfl⟩ ⟨uri, member, breaks⟩

/-- **A preamble determines its registry, and a finished text both.**  A preamble fails for
the first URI that breaks out of its brackets, and for nothing else.  Otherwise it is read
back as its registry, alone and in front of any text, so no two registries have one
preamble, and no two texts behind two of them make one finished text. -/
theorem preamble_determines_registry :
    (∀ registry : Registry, registry.Labelled →
      ((∃ error, registry.preamble = .error error) ↔ ∃ uri ∈ registry.uris, BreaksOut uri) ∧
      (∀ error, registry.preamble = .error error ↔
        ∃ before uri after, registry.uris = before ++ uri :: after ∧
          (∀ earlier ∈ before, ¬ BreaksOut earlier) ∧ BreaksOut uri ∧
          error = .suspiciousIri uri) ∧
      ∀ preamble, registry.preamble = .ok preamble →
        readPreamble? preamble = some registry ∧
          (registry.isEmpty = false →
            ∀ t, readDeclarations? (preamble ++ t) = some (registry, t))) ∧
    ∀ first second : Registry, first.Labelled → second.Labelled →
      (∀ preamble, first.preamble = .ok preamble → second.preamble = .ok preamble →
        first = second) ∧
      (first.isEmpty = false → second.isEmpty = false →
        ∀ preamble other, first.preamble = .ok preamble → second.preamble = .ok other →
          ∀ t u, preamble ++ t = other ++ u → first = second ∧ t = u) := by
  refine ⟨fun registry labelled => ⟨exists_preamble_error_iff, fun _ => preamble_eq_error_iff, ?_⟩,
    fun first second labelled labelled' => ⟨?_, ?_⟩⟩
  · intro preamble written
    obtain ⟨readable, rfl⟩ := labelled.readable_of_preamble written
    exact ⟨readable.readPreamble?_declarations, readable.readDeclarations?_append⟩
  · intro preamble written written'
    obtain ⟨readable, rfl⟩ := labelled.readable_of_preamble written
    obtain ⟨readable', same⟩ := labelled'.readable_of_preamble written'
    have read := readable.readPreamble?_declarations
    rw [← same, readable'.readPreamble?_declarations] at read
    exact (Option.some.inj read).symm
  · intro something something' preamble other written written' t u same
    obtain ⟨readable, rfl⟩ := labelled.readable_of_preamble written
    obtain ⟨readable', rfl⟩ := labelled'.readable_of_preamble written'
    have read := readable.readDeclarations?_append something t
    rw [same, readable'.readDeclarations?_append something' u] at read
    cases read
    exact ⟨rfl, rfl⟩

/-- URIs that look like declarations are read as URIs, a text of declarations stays behind the
empty line, and of two URIs that break out the first is refused. -/
theorem preamble_determines_registry_lookalike :
    let registry : Registry :=
      ⟨some "b: <c".toList, [("p".toList, "PREFIX q: <d".toList), ([], "BASE".toList)]⟩
    let preamble := "BASE <b: <c>\nPREFIX p: <PREFIX q: <d>\nPREFIX : <BASE>\n\n".toList
    let text := "PREFIX r: <e>\n\nASK ?x ".toList
    let broken : Registry := ⟨some "a".toList, [("p".toList, "b>c".toList), ([], ['\n'])]⟩
    readPreamble? preamble = some registry ∧
      readDeclarations? (preamble ++ text) = some (registry, text) ∧
      (∀ other, preamble ++ text = preamble ++ other → text = other) ∧
      broken.preamble = .error (.suspiciousIri "b>c".toList) := by
  intro registry preamble text broken
  have labelled : registry.Labelled := by unfold Labelled; decide
  have written : registry.preamble = .ok preamble := rfl
  have read := (preamble_determines_registry.1 registry labelled).2.2 preamble written
  have one := (preamble_determines_registry.2 registry registry labelled labelled).2 rfl rfl
    preamble preamble written written text
  have brokenLabelled : broken.Labelled := by unfold Labelled; decide
  have safe : ∀ earlier ∈ ["a".toList], ¬ BreaksOut earlier := by unfold BreaksOut; decide
  have breaks : BreaksOut "b>c".toList := by unfold BreaksOut; decide
  have refused := (preamble_determines_registry.1 broken brokenLabelled).2.1
    (.suspiciousIri "b>c".toList)
  exact ⟨read.1, read.2 rfl text, fun other same => (one other same).2,
    refused.2 ⟨["a".toList], "b>c".toList, [['\n']], rfl, safe, breaks, rfl⟩⟩

end SparqlRequest.Registry
