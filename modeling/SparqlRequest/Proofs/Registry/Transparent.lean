/-
# Proofs.Registry.Transparent -- what the declarations do to the kind of a statement

The declarations are written by one part of the library and skipped by another, and the
statement behind them can be any text.  A front of a statement is *transparent* if the
keyword is that of what follows, with a fallback that tells no kind when nothing
follows; it is *shadowing* if the keyword is its own, whatever follows, and tells no kind.
Both notions pass to longer fronts, so a line decides for itself: the line of a
declaration is transparent, and shadowing if its URI is empty, since a clause needs a
character between its brackets.
-/
import SparqlRequest.Proofs.Registry.Preamble
import SparqlRequest.Proofs.Statement.Prologue

set_option autoImplicit false

namespace SparqlRequest.StatementKind

/-! ## Fronts -/

/-- The keyword behind a front is that of what follows it, if that has one. -/
def Transparent (front : Text) : Prop :=
  ∃ fallback, kindOf? fallback = none ∧ ∀ t, keyword? (front ++ t) = (keyword? t).or fallback

/-- The keyword stands in the front, and tells no kind. -/
def Shadowing (front : Text) : Prop :=
  ∃ word, kindOf? (some word) = none ∧ ∀ t, keyword? (front ++ t) = some word

theorem transparent_nil : Transparent [] :=
  ⟨none, rfl, fun t => by rw [List.nil_append, Option.or_none]⟩

/-- Two fronts that are looked through are looked through one behind the other. -/
theorem Transparent.append {front back : Text} (first : Transparent front)
    (second : Transparent back) : Transparent (front ++ back) := by
  obtain ⟨word, noKind, behind⟩ := first
  obtain ⟨word', noKind', behind'⟩ := second
  refine ⟨word'.or word, ?_, fun t => ?_⟩
  · cases word' with
    | none => rw [Option.none_or, noKind]
    | some _ => rw [Option.some_or, noKind']
  · rw [List.append_assoc, behind, behind', Option.or_assoc]

theorem Transparent.append_shadowing {front back : Text} (first : Transparent front)
    (second : Shadowing back) : Shadowing (front ++ back) := by
  obtain ⟨_, _, behind⟩ := first
  obtain ⟨word, noKind, own⟩ := second
  refine ⟨word, noKind, fun t => ?_⟩
  rw [List.append_assoc, behind, own, Option.some_or]

/-- Nothing behind a front that shadows has a say. -/
theorem Shadowing.append {front : Text} (first : Shadowing front) (back : Text) :
    Shadowing (front ++ back) := by
  obtain ⟨word, noKind, own⟩ := first
  refine ⟨word, noKind, fun t => ?_⟩
  rw [List.append_assoc, own]

theorem transparent_flatten {fronts : List Text} (each : ∀ front ∈ fronts, Transparent front) :
    Transparent fronts.flatten := by
  induction fronts with
  | nil => exact transparent_nil
  | cons front fronts ih =>
      rw [List.forall_mem_cons] at each
      rw [List.flatten_cons]
      exact each.1.append (ih each.2)

/-- The first front that is not transparent decides. -/
theorem shadowing_flatten {fronts : List Text}
    (each : ∀ front ∈ fronts, Transparent front ∨ Shadowing front)
    (present : ∃ front ∈ fronts, Shadowing front) : Shadowing fronts.flatten := by
  induction fronts with
  | nil =>
      obtain ⟨_, member, _⟩ := present
      cases member
  | cons front fronts ih =>
      rw [List.forall_mem_cons] at each
      rw [List.flatten_cons]
      rcases each.1 with first | first
      · rw [List.exists_mem_cons_iff] at present
        rcases present with own | later
        · exact own.append _
        · exact first.append_shadowing (ih each.2 later)
      · exact first.append _

/-- Behind a front that is looked through, a statement is judged as without it. -/
theorem Transparent.sameVerdict {front : Text} (clear : Transparent front) (t : Text) :
    SameVerdict (front ++ t) t := by
  obtain ⟨fallback, noKind, behind⟩ := clear
  apply sameVerdict_of_kindOf?_eq
  rw [behind]
  cases keyword? t with
  | none => rw [Option.none_or, noKind, kindOf?, Option.map_none, Option.bind_none]
  | some word => rw [Option.some_or]

theorem Shadowing.classify_eq_malformed {front : Text} (own : Shadowing front) (t : Text) :
    classify (front ++ t) = .error (.malformedStatement (front ++ t)) := by
  obtain ⟨word, noKind, found⟩ := own
  rw [classify_eq_malformed_iff, found, noKind]

/-! ## Lines of declarations -/

theorem pastStretch?_append {mark : Char} {s : Text} (before : mark ∉ s) (rest : Text) :
    pastStretch? mark (s ++ mark :: rest) = if s = [] then none else some rest := by
  cases s with
  | nil => simp [pastStretch?]
  | cons c s =>
      rw [List.mem_cons, not_or] at before
      have cut : Text.cut? mark (s ++ mark :: rest) = some (s, rest) :=
        Text.cut?_eq_some_iff.2 ⟨rfl, before.2⟩
      rw [List.cons_append, pastStretch?, if_neg (Ne.symm before.1), cut,
        if_neg (List.cons_ne_nil c s), Option.map_some]

theorem afterCaseless?_append (word t : Text) : afterCaseless? word (word ++ t) = some t := by
  induction word with
  | nil => rfl
  | cons c word ih => rw [List.cons_append, afterCaseless?, if_pos rfl, ih]

theorem afterKeyword?_append {word : Text} (isKeyword : word ∈ clauseKeywords) (t : Text) :
    afterKeyword? (word ++ t) = some t := by
  rw [clauseKeywords, List.mem_pair] at isKeyword
  rcases isKeyword with rfl | rfl
  · rw [afterKeyword?, afterCaseless?_append, Option.some_or]
  · rw [afterKeyword?, afterCaseless?_append]
    rfl

/-- The line of a declaration: a keyword, a stretch up to the bracket, and a URI. -/
structure Line where
  word : Text
  stretch : Text
  uri : Text

namespace Line

def text (line : Line) : Text :=
  line.word ++ (line.stretch ++ '<' :: (line.uri ++ ['>', '\n']))

structure Readable (line : Line) : Prop where
  isKeyword : line.word ∈ clauseKeywords
  spaced : Text.startsBlank line.stretch = true
  opens : '<' ∉ line.stretch
  closes : '>' ∉ line.uri

variable {line : Line}

theorem Readable.noKind (readable : line.Readable) : kindOf? (some line.word) = none := by
  have isKeyword := readable.isKeyword
  rw [clauseKeywords, List.mem_pair] at isKeyword
  rcases isKeyword with same | same
  · rw [same]
    decide
  · rw [same]
    decide

theorem Readable.isWord (readable : line.Readable) :
    line.word ≠ [] ∧ ∀ c ∈ line.word, Text.isWord c = true := by
  have isKeyword := readable.isKeyword
  rw [clauseKeywords, List.mem_pair] at isKeyword
  rcases isKeyword with same | same
  · rw [same]
    exact ⟨by decide, List.all_eq_true.1 rfl⟩
  · rw [same]
    exact ⟨by decide, List.all_eq_true.1 rfl⟩

theorem text_append (line : Line) (t : Text) :
    line.text ++ t =
      line.word ++ (line.stretch ++ '<' :: (line.uri ++ '>' :: ('\n' :: t))) := by
  simp only [text, List.append_assoc, List.cons_append, List.nil_append]

theorem Readable.stretch_ne_nil (readable : line.Readable) : line.stretch ≠ [] := by
  intro empty
  have spaced := readable.spaced
  rw [empty] at spaced
  cases spaced

theorem Readable.wordAt? (readable : line.Readable) (t : Text) :
    wordAt? (line.text ++ t) = some line.word := by
  obtain ⟨c, more, same⟩ := List.exists_cons_of_ne_nil readable.stretch_ne_nil
  have noWord : Text.isWord c = false := by
    apply Text.isWord_of_isBlank
    have spaced := readable.spaced
    rwa [same] at spaced
  rw [text_append]
  apply wordAt?_append (List.forall_mem_nil _) readable.isWord.2 readable.isWord.1
  rw [same, List.cons_append, Text.leadingWord, List.takeWhile_cons_of_neg (by simp [noWord])]

/-- The line is a clause, and what follows it begins with its line feed; without a
character in its URI it is none. -/
theorem Readable.afterClause? (readable : line.Readable) (t : Text) :
    afterClause? (line.text ++ t) = if line.uri = [] then none else some ('\n' :: t) := by
  obtain ⟨c, more, same⟩ := List.exists_cons_of_ne_nil readable.isWord.1
  have atStart : Text.startsBlank (line.text ++ t) = false := by
    rw [text_append, same]
    exact Text.startsBlank_of_isWord (readable.isWord.2 c (same ▸ List.mem_cons_self)) _
  rw [StatementKind.afterClause?, Text.skipBlanks_of_not_startsBlank atStart, text_append,
    afterKeyword?_append readable.isKeyword, Option.bind_some,
    pastStretch?_append readable.opens, if_neg readable.stretch_ne_nil, Option.bind_some,
    pastStretch?_append readable.closes]

/-- A line with a URI is a clause, so it is looked through. -/
theorem Readable.transparent (readable : line.Readable) (nonempty : line.uri ≠ []) :
    Transparent line.text := by
  refine ⟨some line.word, readable.noKind, fun t => ?_⟩
  have found := readable.afterClause? t
  rw [if_neg nonempty] at found
  have lineFeed : keyword? ('\n' :: t) = keyword? t := keyword?_skipBlanks rfl
  rw [keyword?_of_clause found, lineFeed, readable.wordAt?]

/-- A line with an empty URI is no clause, so its keyword is the one that is found. -/
theorem Readable.shadowing (readable : line.Readable) (empty : line.uri = []) :
    Shadowing line.text := by
  refine ⟨line.word, readable.noKind, fun t => ?_⟩
  have stuck := readable.afterClause? t
  rw [if_pos empty] at stuck
  rw [keyword?_of_no_clause stuck, readable.wordAt?]

theorem Readable.transparent_or_shadowing (readable : line.Readable) :
    Transparent line.text ∨ Shadowing line.text := by
  by_cases empty : line.uri = []
  · exact Or.inr (readable.shadowing empty)
  · exact Or.inl (readable.transparent empty)

end Line

end SparqlRequest.StatementKind

namespace SparqlRequest.Registry

open StatementKind

variable {registry : Registry}

/-! ## The declarations of a registry -/

/-- The lines of a registry in their parts. -/
def declared (registry : Registry) : List Line :=
  (registry.base.toList.map fun uri => ⟨"BASE".toList, [' '], uri⟩) ++
    registry.prefixes.map fun entry =>
      ⟨"PREFIX".toList, ' ' :: (entry.1 ++ [':', ' ']), entry.2⟩

theorem baseText_eq (uri : Text) : baseText uri = Line.text ⟨"BASE".toList, [' '], uri⟩ := by
  unfold baseText Line.text
  rw [List.append_assoc]
  rfl

theorem prefixText_eq (entry : Text × Text) :
    prefixText entry =
      Line.text ⟨"PREFIX".toList, ' ' :: (entry.1 ++ [':', ' ']), entry.2⟩ := by
  have keyword : "PREFIX ".toList = "PREFIX".toList ++ [' '] := rfl
  have bracket : ": <".toList = [':', ' ', '<'] := rfl
  unfold prefixText Line.text
  simp only [keyword, bracket, List.append_assoc, List.cons_append, List.nil_append]

theorem lines_eq (registry : Registry) : registry.lines = registry.declared.map Line.text := by
  rw [lines, declared, List.map_append, List.map_map, List.map_map, funext baseText_eq,
    funext prefixText_eq]
  rfl

theorem uris_eq (registry : Registry) : registry.uris = registry.declared.map Line.uri := by
  rw [uris, declared, List.map_append, List.map_map, List.map_map]
  congr 1
  exact (List.map_id _).symm

theorem readable_of_mem_declared (plain : ∀ entry ∈ registry.prefixes, '<' ∉ entry.1)
    (safe : ∀ uri ∈ registry.uris, ∀ c ∈ uri, Lexical.breaksOut c = false) :
    ∀ line ∈ registry.declared, line.Readable := by
  intro line member
  have closes : '>' ∉ line.uri := by
    intro bracket
    have declaredUri : line.uri ∈ registry.uris := by
      rw [uris_eq]
      exact List.mem_map_of_mem member
    exact absurd (safe line.uri declaredUri '>' bracket) (by decide)
  rw [declared, List.mem_append, List.mem_map, List.mem_map] at member
  rcases member with ⟨uri, _, rfl⟩ | ⟨entry, inside, rfl⟩
  · have isKeyword : "BASE".toList ∈ clauseKeywords := by decide
    have opens : '<' ∉ [' '] := by decide
    exact ⟨isKeyword, rfl, opens, closes⟩
  · have isKeyword : "PREFIX".toList ∈ clauseKeywords := by decide
    have opens : '<' ∉ ' ' :: (entry.1 ++ [':', ' ']) := by simpa using plain entry inside
    exact ⟨isKeyword, rfl, opens, closes⟩

/-- Declarations of URIs that are not empty are looked through as a whole. -/
theorem transparent_declarations (plain : ∀ entry ∈ registry.prefixes, '<' ∉ entry.1)
    (safe : ∀ uri ∈ registry.uris, ∀ c ∈ uri, Lexical.breaksOut c = false)
    (nonempty : ∀ uri ∈ registry.uris, uri ≠ []) : Transparent registry.declarations := by
  have emptyLine : Transparent ['\n'] :=
    ⟨none, rfl, fun t => by rw [Option.or_none]; exact keyword?_skipBlanks rfl⟩
  have body : Transparent registry.lines.flatten := by
    apply transparent_flatten
    rw [lines_eq, List.forall_mem_map]
    rw [uris_eq, List.forall_mem_map] at nonempty
    exact fun line member =>
      (readable_of_mem_declared plain safe line member).transparent (nonempty line member)
  rw [declarations]
  split
  · exact transparent_nil
  · exact body.append emptyLine

theorem shadowing_declarations (plain : ∀ entry ∈ registry.prefixes, '<' ∉ entry.1)
    (safe : ∀ uri ∈ registry.uris, ∀ c ∈ uri, Lexical.breaksOut c = false)
    (empty : [] ∈ registry.uris) : Shadowing registry.declarations := by
  rw [uris_eq] at empty
  obtain ⟨line, member, noUri⟩ := List.mem_map.1 empty
  have some : registry.lines ≠ [] := by
    rw [lines_eq]
    exact List.ne_nil_of_mem (List.mem_map_of_mem member)
  rw [declarations, if_neg some]
  apply Shadowing.append
  apply shadowing_flatten
  · rw [lines_eq, List.forall_mem_map]
    exact fun line member =>
      (readable_of_mem_declared plain safe line member).transparent_or_shadowing
  · rw [lines_eq]
    exact ⟨line.text, List.mem_map_of_mem member,
      (readable_of_mem_declared plain safe line member).shadowing noUri⟩

/-- **The preamble is transparent to the kind of a statement**, whatever text follows
it; an empty URI in it makes every statement malformed. -/
theorem classify_preamble_append {preamble : Text}
    (plain : ∀ entry ∈ registry.prefixes, '<' ∉ entry.1)
    (written : registry.preamble = .ok preamble) (t : Text) :
    ((∀ uri ∈ registry.uris, uri ≠ []) → SameVerdict (preamble ++ t) t) ∧
      ([] ∈ registry.uris →
        classify (preamble ++ t) = .error (.malformedStatement (preamble ++ t))) := by
  obtain ⟨safe, rfl⟩ := preamble_eq_ok_iff.1 written
  constructor
  · intro nonempty
    exact (transparent_declarations plain safe nonempty).sameVerdict t
  · intro empty
    exact (shadowing_declarations plain safe empty).classify_eq_malformed t

/-- A bracket and a keyword in the URIs do not mislead, an empty URI does. -/
theorem classify_preamble_append_clear :
    SameVerdict ("BASE <a<b>\nPREFIX p: <DROP ALL>\n\n".toList ++ "clear all".toList)
        "clear all".toList ∧
      classify ("PREFIX p: <>\n\n".toList ++ "clear all".toList) =
        .error (.malformedStatement ("PREFIX p: <>\n\n".toList ++ "clear all".toList)) := by
  have full : Registry.preamble ⟨some "a<b".toList, [("p".toList, "DROP ALL".toList)]⟩ =
      .ok "BASE <a<b>\nPREFIX p: <DROP ALL>\n\n".toList := rfl
  have hollow : Registry.preamble ⟨none, [("p".toList, [])]⟩ = .ok "PREFIX p: <>\n\n".toList :=
    rfl
  exact ⟨(classify_preamble_append (by decide) full _).1 (by decide),
    (classify_preamble_append (by decide) hollow _).2 (by decide)⟩

end SparqlRequest.Registry
