/-
# Proofs.Statement.Clauses -- a statement cut along its clauses

`IsClause` spells a clause of a prologue out: white space, PREFIX or BASE in any letter case,
a stretch without an angle bracket that opens and one without an angle bracket that closes,
each of them before its bracket.  Where a clause stands at the front of a text it ends in one
place only, so a text has one `Cut` into clauses and a tail at which none stands.

The search for the keyword goes back through the cut, but never beyond its last clause: a
clause begins with a word of its own, so the word at the last clause is always there to be
found (`keyword?_of_cut`).  What is captured is the word at the tail, and without one the word
at the last clause.  `classify_by_cut` reads the kind of a statement off that word.
-/
import SparqlRequest.Proofs.Statement.Prologue

set_option autoImplicit false

namespace SparqlRequest.StatementKind

/-! ## Clauses, spelled out -/

def Spells (word s : Text) : Prop := s.map Text.fold = word.map Text.fold

/-- The text is a clause of a prologue. -/
def IsClause (s : Text) : Prop :=
  ∃ blanks keyword between uri : Text,
    s = blanks ++ (keyword ++ (between ++ '<' :: (uri ++ ['>']))) ∧
      (∀ c ∈ blanks, Text.isBlank c = true) ∧
      (Spells "PREFIX".toList keyword ∨ Spells "BASE".toList keyword) ∧
      (between ≠ [] ∧ '<' ∉ between) ∧ uri ≠ [] ∧ '>' ∉ uri

theorem mem_language_caseless {word s : Text} :
    s ∈ (caseless word).language ↔ Spells word s := by
  have unfolded : caseless word =
      .chain (word.map fun c d => decide (Text.fold d = Text.fold c)) := rfl
  have agree : (fun c d : Char => Text.fold d = Text.fold c) =
      fun c d => Text.fold c = Text.fold d := by
    funext c d
    exact propext eq_comm
  rw [unfolded, Pattern.mem_language_chain, List.forall₂_map_left_iff, Spells]
  simp only [decide_eq_true_eq, agree]
  rw [← List.forall₂_map_right_iff (f := Text.fold), ← List.forall₂_map_left_iff,
    List.forall₂_eq_eq_eq]
  exact eq_comm

theorem mem_language_stretch {mark : Char} {s : Text} :
    s ∈ (Pattern.many fun c => decide (c ≠ mark)).language ↔ s ≠ [] ∧ mark ∉ s := by
  rw [Pattern.mem_language_many]
  apply and_congr_right
  intro _
  constructor
  · intro inside member
    exact of_decide_eq_true (inside mark member) rfl
  · intro absent c member
    apply decide_eq_true
    rintro rfl
    exact absent member

theorem mem_language_clause {s : Text} : s ∈ clause.language ↔ IsClause s := by
  have unfolded : clause = .all
      [.run Text.isBlank, .alt (caseless "PREFIX".toList) (caseless "BASE".toList),
        .many fun c => decide (c ≠ '<'), .char '<', .many fun c => decide (c ≠ '>'),
        .char '>'] := rfl
  rw [unfolded]
  simp only [Pattern.mem_language_all_cons, Pattern.mem_language_all_nil,
    Pattern.mem_language_run, Pattern.mem_language_alt, mem_language_caseless,
    mem_language_stretch, Pattern.mem_language_char, exists_eq_left, exists_eq_left',
    List.append_nil, List.cons_append, List.nil_append]
  constructor
  · rintro ⟨blanks, white, _, ⟨keyword, spelled, _, ⟨between, open', _, ⟨_, ⟨uri, ⟨some', close⟩,
      rfl⟩, rfl⟩, rfl⟩, rfl⟩, rfl⟩
    exact ⟨blanks, keyword, between, uri, rfl, white, spelled, open', some', close⟩
  · rintro ⟨blanks, keyword, between, uri, rfl, white, spelled, open', some', close⟩
    exact ⟨blanks, white, _, ⟨keyword, spelled, _, ⟨between, open', _, ⟨_, ⟨uri, ⟨some', close⟩,
      rfl⟩, rfl⟩, rfl⟩, rfl⟩, rfl⟩

theorem afterClause?_eq_some_iff_isClause {t rest : Text} :
    afterClause? t = some rest ↔ ∃ s, IsClause s ∧ t = s ++ rest := by
  rw [afterClause?_eq_some_iff]
  simp only [mem_language_clause]

/-- **A clause ends in one place only**, whatever follows it. -/
theorem IsClause.append_inj {s s' rest rest' : Text} (first : IsClause s) (second : IsClause s')
    (same : s ++ rest = s' ++ rest') : s = s' ∧ rest = rest' := by
  have ends : afterClause? (s ++ rest) = some rest :=
    afterClause?_eq_some_iff_isClause.2 ⟨s, first, rfl⟩
  have ends' : afterClause? (s ++ rest) = some rest' :=
    afterClause?_eq_some_iff_isClause.2 ⟨s', second, same⟩
  obtain rfl : rest = rest' := Option.some.inj (ends.symm.trans ends')
  exact ⟨List.append_cancel_right same, rfl⟩

/-- A clause begins with a word. -/
theorem IsClause.exists_wordAt? {s : Text} (isClause : IsClause s) (rest : Text) :
    ∃ word, wordAt? (s ++ rest) = some word := by
  obtain ⟨blanks, keyword, between, uri, rfl, white, spelled, _⟩ := isClause
  obtain ⟨c, tail, rfl, letter⟩ : ∃ c tail, keyword = c :: tail ∧ (Text.fold c).isAlpha = true := by
    rcases spelled with isPrefix | isBase
    · obtain ⟨c, tail, rfl, same, _⟩ := List.map_eq_cons_iff.1 isPrefix
      exact ⟨c, tail, rfl, by rw [same]; decide⟩
    · obtain ⟨c, tail, rfl, same, _⟩ := List.map_eq_cons_iff.1 isBase
      exact ⟨c, tail, rfl, by rw [same]; decide⟩
  have word : Text.isWord c = true := Text.isWord_of_fold letter
  rw [List.append_assoc, List.append_assoc, List.cons_append, wordAt?,
    Text.skipBlanks_append white,
    Text.skipBlanks_of_not_startsBlank (Text.startsBlank_of_isWord word _), Text.leadingWord,
    List.takeWhile_cons_of_pos word]
  exact ⟨_, if_neg (List.cons_ne_nil _ _)⟩

/-! ## Cuts -/

/-- The text is clauses one after another, and a tail at which no clause stands. -/
structure Cut (t : Text) (clauses : List Text) (tail : Text) : Prop where
  whole : t = clauses.flatten ++ tail
  isClause : ∀ s ∈ clauses, IsClause s
  stops : ∀ s rest, IsClause s → tail ≠ s ++ rest

theorem Cut.tail {t s tail : Text} {clauses : List Text} (cut : Cut t (s :: clauses) tail) :
    Cut (clauses.flatten ++ tail) clauses tail where
  whole := rfl
  isClause := fun s member => cut.isClause s (List.mem_cons_of_mem _ member)
  stops := cut.stops

theorem Cut.afterClause?_nil {t tail : Text} (cut : Cut t [] tail) : afterClause? t = none := by
  rw [Option.eq_none_iff_forall_ne_some]
  intro rest found
  obtain ⟨s, isClause, split⟩ := afterClause?_eq_some_iff_isClause.1 found
  exact cut.stops s rest isClause (by rw [← split, cut.whole, List.flatten_nil, List.nil_append])

theorem Cut.afterClause?_cons {t s tail : Text} {clauses : List Text}
    (cut : Cut t (s :: clauses) tail) : afterClause? t = some (clauses.flatten ++ tail) := by
  apply afterClause?_eq_some_iff_isClause.2
  exact ⟨s, cut.isClause s List.mem_cons_self, by
    rw [cut.whole, List.flatten_cons, List.append_assoc]⟩

/-- Every text can be cut: clauses are taken off until none is left. -/
theorem exists_cut (t : Text) : ∃ clauses tail, Cut t clauses tail := by
  induction t using prologue_induction with
  | stop t noClause =>
      refine ⟨[], t, rfl, List.forall_mem_nil _, ?_⟩
      intro s rest isClause split
      rw [afterClause?_eq_some_iff_isClause.2 ⟨s, isClause, split⟩] at noClause
      cases noClause
  | step t rest found ih =>
      obtain ⟨s, isClause, rfl⟩ := afterClause?_eq_some_iff_isClause.1 found
      obtain ⟨clauses, tail, cut⟩ := ih
      refine ⟨s :: clauses, tail, ?_, List.forall_mem_cons.2 ⟨isClause, cut.isClause⟩, cut.stops⟩
      rw [cut.whole, List.flatten_cons, List.append_assoc]

/-- The places where the clauses end are determined by the text. -/
theorem Cut.unique {t tail tail' : Text} {clauses clauses' : List Text}
    (cut : Cut t clauses tail) (cut' : Cut t clauses' tail') :
    clauses = clauses' ∧ tail = tail' := by
  induction clauses generalizing t clauses' with
  | nil =>
      cases clauses' with
      | nil => exact ⟨rfl, cut.whole.symm.trans cut'.whole⟩
      | cons s' clauses' =>
          have ends := cut'.afterClause?_cons
          rw [cut.afterClause?_nil] at ends
          cases ends
  | cons s clauses ih =>
      cases clauses' with
      | nil =>
          have ends := cut.afterClause?_cons
          rw [cut'.afterClause?_nil] at ends
          cases ends
      | cons s' clauses' =>
          have same : s ++ (clauses.flatten ++ tail) = s' ++ (clauses'.flatten ++ tail') := by
            rw [← List.append_assoc, ← List.append_assoc, ← List.flatten_cons,
              ← List.flatten_cons, ← cut.whole, ← cut'.whole]
          obtain ⟨rfl, later⟩ := (cut.isClause s List.mem_cons_self).append_inj
            (cut'.isClause s' List.mem_cons_self) same
          obtain ⟨rfl, rfl⟩ := ih cut.tail (later ▸ cut'.tail)
          exact ⟨rfl, rfl⟩

/-! ## The word that is captured -/

/-- The word at the tail of a cut, or without one the word at its last clause. -/
def wordOfCut? (clauses : List Text) (tail : Text) : Option Text :=
  (wordAt? tail).or (clauses.getLast?.bind fun last => wordAt? (last ++ tail))

/-- The search goes back by one clause at most: behind further clauses a word is always
found. -/
theorem keyword?_of_cut {t tail : Text} {clauses : List Text} (cut : Cut t clauses tail) :
    keyword? t = wordOfCut? clauses tail := by
  induction clauses generalizing t with
  | nil =>
      rw [keyword?_of_no_clause cut.afterClause?_nil, cut.whole, List.flatten_nil,
        List.nil_append, wordOfCut?, List.getLast?_nil, Option.bind_none, Option.or_none]
  | cons s clauses ih =>
      rw [keyword?_of_clause cut.afterClause?_cons, ih cut.tail]
      cases last : clauses.getLast? with
      | none =>
          obtain rfl := List.getLast?_eq_none_iff.1 last
          rw [cut.whole, wordOfCut?, wordOfCut?, List.getLast?_nil, List.getLast?_singleton,
            Option.bind_none, Option.or_none, Option.bind_some, List.flatten_singleton]
      | some inner =>
          have member : inner ∈ clauses := List.mem_of_getLast? last
          obtain ⟨word, found⟩ :=
            (cut.isClause inner (List.mem_cons_of_mem _ member)).exists_wordAt? tail
          have sameLast : (s :: clauses).getLast? = some inner := by
            rw [List.getLast?_cons, last, Option.getD_some]
          rw [wordOfCut?, wordOfCut?, last, sameLast, Option.bind_some, found, Option.or_assoc,
            Option.some_or]

/-! ## The kind of a statement -/

theorem kindOf?_spec (captured : Option Text) :
    (kindOf? captured = none ↔
        captured = none ∨ ∃ word, captured = some word ∧ Text.upper word ∈ clauseKeywords) ∧
      (kindOf? captured = some .update ↔
        ∃ word, captured = some word ∧ Text.upper word ∈ updateKeywords) ∧
      (kindOf? captured = some .query ↔
        ∃ word, captured = some word ∧ Text.upper word ∉ clauseKeywords ∧
          Text.upper word ∉ updateKeywords) := by
  have apart : ∀ word ∈ updateKeywords, word ∉ clauseKeywords := by decide
  cases captured with
  | none => simp [kindOf?]
  | some word =>
      by_cases isUpdate : Text.upper word ∈ updateKeywords
      · simp [kindOf?, isUpdate, apart _ isUpdate]
      · by_cases isClause : Text.upper word ∈ clauseKeywords
        · simp [kindOf?, isUpdate, isClause]
        · simp [kindOf?, isUpdate, isClause]

/-- Statements fail for their keyword alone, and the failure shows the whole text. -/
theorem classify_eq_error_iff {t : Text} {error : Error} :
    classify t = .error error ↔ error = .malformedStatement t ∧ kindOf? (keyword? t) = none := by
  rw [classify_eq]
  cases kindOf? (keyword? t) with
  | none => simp [eq_comm]
  | some kind => simp

/-- **The kind of a statement is told by its cut.**  A clause ends in one place only, so a text
has exactly one cut; what the search captures is the word at the tail of that cut, or without
one the word at the last clause, and the kind is read off that word alone. -/
theorem classify_by_cut (t : Text) :
    (∀ s s' rest rest', IsClause s → IsClause s' → s ++ rest = s' ++ rest' → s = s') ∧
      ∃ clauses tail,
        (∀ clauses' tail', Cut t clauses' tail' ↔ clauses' = clauses ∧ tail' = tail) ∧
        keyword? t = wordOfCut? clauses tail ∧
        (∀ error, classify t = .error error ↔
          error = .malformedStatement t ∧
            (wordOfCut? clauses tail = none ∨
              ∃ word, wordOfCut? clauses tail = some word ∧
                Text.upper word ∈ ["PREFIX".toList, "BASE".toList])) ∧
        (classify t = .ok .update ↔
          ∃ word, wordOfCut? clauses tail = some word ∧
            Text.upper word ∈
              ["LOAD".toList, "CLEAR".toList, "DROP".toList, "CREATE".toList, "ADD".toList,
                "MOVE".toList, "COPY".toList, "INSERT".toList, "DELETE".toList, "WITH".toList]) ∧
        (classify t = .ok .query ↔
          ∃ word, wordOfCut? clauses tail = some word ∧
            Text.upper word ∉ ["PREFIX".toList, "BASE".toList] ∧
            Text.upper word ∉
              ["LOAD".toList, "CLEAR".toList, "DROP".toList, "CREATE".toList, "ADD".toList,
                "MOVE".toList, "COPY".toList, "INSERT".toList, "DELETE".toList,
                "WITH".toList]) := by
  obtain ⟨clauses, tail, cut⟩ := exists_cut t
  have captured := keyword?_of_cut cut
  obtain ⟨isNone, isUpdate, isQuery⟩ := kindOf?_spec (wordOfCut? clauses tail)
  refine ⟨?_, clauses, tail, ?_, captured, ?_, ?_, ?_⟩
  · intro s s' rest rest' first second same
    exact (first.append_inj second same).1
  · intro clauses' tail'
    constructor
    · exact fun cut' => cut'.unique cut
    · rintro ⟨rfl, rfl⟩
      exact cut
  · intro error
    rw [classify_eq_error_iff, captured, isNone]
    rfl
  · rw [classify_eq_ok_iff, captured, isUpdate]
    rfl
  · rw [classify_eq_ok_iff, captured, isQuery]
    rfl

/-- A word that begins a clause by accident is the keyword where none follows the clause. -/
example : classify "PREFIXES a <b> .".toList = .ok .query :=
  classify_eq_ok_iff.2 (by decide +kernel)

end SparqlRequest.StatementKind
