/-
# Proofs.Statement.Stable -- the keyword does not depend on what follows it

A clause may stretch over any amount of text, and the search goes back when no word
follows a clause.  Neither happens once a keyword is found that does not begin a clause
itself: the clauses before it end where they end whatever follows them, and at the
keyword no further clause can begin.  `keyword?_stable` says that any text may then take
the place of what stands behind the keyword, as long as it does not go on with it.
-/
import SparqlRequest.Proofs.Statement.Prologue

set_option autoImplicit false

namespace SparqlRequest.StatementKind

/-! ## Clauses and words -/

/-- A keyword of letters lies inside the word at its place. -/
theorem afterCaseless?_leadingWord {keyword t : Text}
    (letters : ∀ c ∈ keyword, (Text.fold c).isAlpha = true)
    (absent : afterCaseless? keyword (Text.leadingWord t) = none) :
    afterCaseless? keyword t = none := by
  induction keyword generalizing t with
  | nil => cases absent
  | cons c keyword ih =>
      rw [List.forall_mem_cons] at letters
      cases t with
      | nil => rfl
      | cons d t =>
          by_cases same : Text.fold d = Text.fold c
          · have word : Text.isWord d = true := Text.isWord_of_fold (same ▸ letters.1)
            rw [Text.leadingWord, List.takeWhile_cons_of_pos word, afterCaseless?,
              if_pos same] at absent
            rw [afterCaseless?, if_pos same]
            exact ih letters.2 absent
          · rw [afterCaseless?, if_neg same]

theorem afterKeyword?_leadingWord {t : Text} (absent : afterKeyword? (Text.leadingWord t) = none) :
    afterKeyword? t = none := by
  rw [afterKeyword?, Option.or_eq_none_iff] at absent ⊢
  constructor
  · exact afterCaseless?_leadingWord (List.all_eq_true.1 rfl) absent.1
  · exact afterCaseless?_leadingWord (List.all_eq_true.1 rfl) absent.2

/-- Where the word at a place does not begin with PREFIX or BASE, no clause stands. -/
theorem afterClause?_eq_none {t : Text}
    (closed : afterKeyword? (Text.leadingWord (Text.skipBlanks t)) = none) :
    afterClause? t = none := by
  rw [afterClause?, afterKeyword?_leadingWord closed, Option.bind_none]

/-! ## The place of the keyword -/

/-- The text before the keyword, the keyword, and the text behind it. -/
def keywordParts? (t : Text) : Option (Text × Text × Text) :=
  (keywordPlace? t).map fun place =>
    (t.take (t.length - place.1.length), Text.leadingWord place.1, place.2)

theorem wordPlace?_eq_some {t : Text} {place : Text × Text} (found : wordPlace? t = some place) :
    place.1 = Text.skipBlanks t ∧ place.2 = place.1.dropWhile Text.isWord ∧
      Text.leadingWord place.1 ≠ [] := by
  simp only [wordPlace?] at found
  by_cases noWord : Text.leadingWord (Text.skipBlanks t) = []
  · rw [if_pos noWord] at found
    cases found
  · rw [if_neg noWord] at found
    cases found
    exact ⟨rfl, rfl, noWord⟩

theorem keywordPlace?_eq_some {t : Text} {place : Text × Text}
    (found : keywordPlace? t = some place) :
    (∃ before, t = before ++ place.1) ∧ place.2 = place.1.dropWhile Text.isWord ∧
      Text.leadingWord place.1 ≠ [] := by
  have atWord : ∀ u, wordPlace? u = some place → (∃ before, u = before ++ place.1) ∧
      place.2 = place.1.dropWhile Text.isWord ∧ Text.leadingWord place.1 ≠ [] := by
    intro u here
    obtain ⟨start, rest⟩ := wordPlace?_eq_some here
    refine ⟨⟨u.takeWhile Text.isBlank, ?_⟩, rest⟩
    rw [start, Text.skipBlanks, List.takeWhile_append_dropWhile]
  induction t using prologue_induction with
  | stop t noClause =>
      rw [keywordPlace?_of_no_clause noClause] at found
      exact atWord t found
  | step t rest isClause ih =>
      rw [keywordPlace?_of_clause isClause] at found
      cases later : keywordPlace? rest with
      | none =>
          rw [later, Option.none_or] at found
          exact atWord t found
      | some place' =>
          rw [later, Option.some_or] at found
          obtain ⟨⟨before, split⟩, parts⟩ := ih (later.trans found)
          obtain ⟨s, _, rfl⟩ := afterClause?_eq_some_iff.1 isClause
          exact ⟨⟨s ++ before, by rw [split, List.append_assoc]⟩, parts⟩

/-- The keyword with what stands before and behind it is the whole text. -/
theorem keywordParts?_eq_some {t before word after : Text}
    (found : keywordParts? t = some (before, word, after)) :
    t = before ++ (word ++ after) ∧ keywordPlace? t = some (word ++ after, after) ∧
      Text.leadingWord (word ++ after) = word ∧ Text.leadingWord after = [] := by
  obtain ⟨⟨start, behind⟩, placed, same⟩ := Option.map_eq_some_iff.1 found
  obtain ⟨⟨front, split⟩, tail, _⟩ := keywordPlace?_eq_some placed
  simp only at split tail same
  have cut : t.take (t.length - start.length) = front := by
    rw [split, List.length_append, Nat.add_sub_cancel, List.take_left]
  rw [cut] at same
  cases same
  have whole : Text.leadingWord start ++ after = start := by
    rw [tail, Text.leadingWord, List.takeWhile_append_dropWhile]
  rw [whole]
  refine ⟨split, placed, rfl, ?_⟩
  rw [tail]
  exact Text.leadingWord_behind start

theorem keyword?_eq_parts (t : Text) :
    keyword? t = (keywordParts? t).map fun parts => parts.2.1 := by
  rw [keyword?_eq_place, keywordParts?, Option.map_map]
  cases found : keywordPlace? t with
  | none => rfl
  | some place =>
      obtain ⟨_, tail, _⟩ := keywordPlace?_eq_some found
      simp only [Option.map_some, Function.comp_apply, tail, Text.take_eq_leadingWord]

/-! ## Stability -/

/-- A word that does not begin with PREFIX or BASE is the keyword where it stands. -/
theorem keyword?_of_word {blanks word rest : Text} (white : ∀ c ∈ blanks, Text.isBlank c = true)
    (inside : ∀ c ∈ word, Text.isWord c = true) (nonempty : word ≠ [])
    (closed : afterKeyword? word = none) (apart : Text.leadingWord rest = []) :
    keyword? (blanks ++ (word ++ rest)) = some word := by
  have noClause : afterClause? (blanks ++ (word ++ rest)) = none := by
    apply afterClause?_eq_none
    rw [Text.leadingWord_skipBlanks_append white inside nonempty apart, closed]
  rw [keyword?_of_no_clause noClause, wordAt?_append white inside nonempty apart]

/-- **Nothing behind the keyword is consulted**, once the keyword does not begin with
PREFIX or BASE. -/
theorem keyword?_stable {t before : Text} {place : Text × Text}
    (found : keywordPlace? t = some place) (split : t = before ++ place.1)
    (closed : afterKeyword? (Text.leadingWord place.1) = none) {rest : Text}
    (apart : Text.leadingWord rest = []) :
    keyword? (before ++ (Text.leadingWord place.1 ++ rest)) =
      some (Text.leadingWord place.1) := by
  induction t using prologue_induction generalizing before with
  | stop t noClause =>
      rw [keywordPlace?_of_no_clause noClause] at found
      obtain ⟨start, _, nonempty⟩ := wordPlace?_eq_some found
      have cut : before ++ place.1 = t.takeWhile Text.isBlank ++ place.1 := by
        rw [← split, start, Text.skipBlanks, List.takeWhile_append_dropWhile]
      rw [List.append_cancel_right cut]
      exact keyword?_of_word (fun _ member => List.mem_takeWhile_imp member)
        Text.isWord_of_mem_leadingWord nonempty closed apart
  | step t u isClause ih =>
      rw [keywordPlace?_of_clause isClause] at found
      cases later : keywordPlace? u with
      | none =>
          -- The word at a clause is its keyword, which `closed` rules out.
          rw [later, Option.none_or] at found
          rw [(wordPlace?_eq_some found).1] at closed
          rw [afterClause?_eq_none closed] at isClause
          cases isClause
      | some place' =>
          rw [later, Option.some_or] at found
          have placed : keywordPlace? u = some place := later.trans found
          obtain ⟨⟨front, splitLater⟩, _⟩ := keywordPlace?_eq_some placed
          obtain ⟨s, inLanguage, rfl⟩ := afterClause?_eq_some_iff.1 isClause
          have joined : before ++ place.1 = (s ++ front) ++ place.1 := by
            rw [← split, splitLater, List.append_assoc]
          rw [List.append_cancel_right joined, List.append_assoc,
            keyword?_of_clause (afterClause?_append inLanguage _), ih placed splitLater,
            Option.some_or]

end SparqlRequest.StatementKind
