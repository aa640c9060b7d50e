/-
# Proofs.Statement.Prologue -- the keyword without backtracking

The keyword of a statement is found by a search that prefers a longer prologue and
goes back when no word follows.  A clause of the prologue, however, can match in one
way only: white space does not begin a keyword, no text begins with both keywords, and
an angle bracket ends the stretch before it.  `afterClause?` computes that way, and
`ends_clause` says that it is all the search finds.

So the search is a recursion along the clauses.  The keyword behind a clause is the
keyword of what follows it, and only if there is none the word at its own place
(`keyword?_of_clause`); where no clause matches, it is the word that stands there
(`keyword?_of_no_clause`).  `prologue_induction` is the induction that follows this
recursion.
-/
import SparqlRequest.Proofs.Pattern.Capture
import SparqlRequest.Proofs.Text.Word
import SparqlRequest.Statement.Kind

set_option autoImplicit false

namespace SparqlRequest.StatementKind

/-! ## Keywords of a clause -/

def afterCaseless? : Text → Text → Option Text
  | [], t => some t
  | _ :: _, [] => none
  | c :: word, d :: t => if Text.fold d = Text.fold c then afterCaseless? word t else none

theorem ends_caseless (word t : Text) :
    Pattern.ends (caseless word) t = (afterCaseless? word t).toList := by
  induction word generalizing t with
  | nil => rfl
  | cons c word ih =>
      have unfolded : caseless (c :: word) =
          .seq (.one fun d => Text.fold d = Text.fold c) (caseless word) := rfl
      rw [unfolded]
      cases t with
      | nil => rfl
      | cons d t =>
          by_cases same : Text.fold d = Text.fold c
          · simp [Pattern.ends, afterCaseless?, same, ih]
          · simp [Pattern.ends, afterCaseless?, same]

/-- What follows PREFIX or BASE in any letter case. -/
def afterKeyword? (t : Text) : Option Text :=
  (afterCaseless? "PREFIX".toList t).or (afterCaseless? "BASE".toList t)

/-- The first letter decides which keyword can stand at a place. -/
theorem afterCaseless?_of_ne {c d : Char} (differs : Text.fold d ≠ Text.fold c) (word t : Text) :
    afterCaseless? (c :: word) (d :: t) = none := by
  rw [afterCaseless?, if_neg differs]

/-- The keywords of a clause begin with different letters, so one at most can stand at
a place. -/
theorem ends_keyword (t : Text) :
    Pattern.ends (.alt (caseless "PREFIX".toList) (caseless "BASE".toList)) t =
      (afterKeyword? t).toList := by
  rw [Pattern.ends, ends_caseless, ends_caseless, afterKeyword?]
  cases first : afterCaseless? "PREFIX".toList t with
  | none => rfl
  | some rest =>
      cases t with
      | nil => cases first
      | cons c t =>
          have isP : Text.fold c = Text.fold 'P' := by
            by_contra differs
            have absent : afterCaseless? "PREFIX".toList (c :: t) = none :=
              afterCaseless?_of_ne differs "REFIX".toList t
            rw [absent] at first
            cases first
          have notB : Text.fold c ≠ Text.fold 'B' := by
            rw [isP]
            decide
          have noBase : afterCaseless? "BASE".toList (c :: t) = none :=
            afterCaseless?_of_ne notB "ASE".toList t
          rw [noBase]
          rfl

/-- The first letter of a keyword is a word character. -/
theorem afterKeyword?_cons_eq_none {c : Char} (noWord : Text.isWord c = false) (t : Text) :
    afterKeyword? (c :: t) = none := by
  have differs : ∀ letter : Char, (Text.fold letter).isAlpha = true →
      Text.fold c ≠ Text.fold letter := by
    intro letter alpha same
    rw [← same] at alpha
    rw [Text.isWord_of_fold alpha] at noWord
    cases noWord
  have noPrefix : afterCaseless? "PREFIX".toList (c :: t) = none :=
    afterCaseless?_of_ne (differs 'P' (by decide)) "REFIX".toList t
  have noBase : afterCaseless? "BASE".toList (c :: t) = none :=
    afterCaseless?_of_ne (differs 'B' (by decide)) "ASE".toList t
  rw [afterKeyword?, noPrefix, noBase, Option.none_or]

/-! ## Stretches -/

/-- What follows the first `mark` of a text, if something stands before it. -/
def pastStretch? (mark : Char) : Text → Option Text
  | [] => none
  | c :: t => if c = mark then none else (Text.cut? mark t).map fun parts => parts.2

theorem dropWhile_ne_eq (mark : Char) (t : Text) :
    t.dropWhile (fun c => decide (c ≠ mark)) =
      ((Text.cut? mark t).map fun parts => mark :: parts.2).getD [] := by
  induction t with
  | nil => rfl
  | cons c t ih =>
      by_cases here : c = mark
      · simp [Text.cut?, here]
      · rw [List.dropWhile_cons_of_pos (by simpa using here), ih, Text.cut?, if_neg here]
        cases Text.cut? mark t with
        | none => rfl
        | some parts => rfl

theorem ends_stretch (mark : Char) (next : Pattern) (t : Text) :
    Pattern.ends (.seq (.many fun c => decide (c ≠ mark)) (.seq (.char mark) next)) t =
      (pastStretch? mark t).toList.flatMap (Pattern.ends next) := by
  have dead : ∀ (c : Char) (u : Text), decide (c ≠ mark) = true →
      Pattern.ends (.seq (.char mark) next) (c :: u) = [] := by
    intro c u differs
    simp only [decide_eq_true_eq] at differs
    simp [Pattern.ends, Pattern.char, differs]
  cases t with
  | nil => rfl
  | cons c t =>
      by_cases here : c = mark
      · simp [Pattern.ends, Pattern.many, pastStretch?, here]
      · have opened : Pattern.ends (.many fun c => decide (c ≠ mark)) (c :: t) =
            Pattern.runEnds (fun c => decide (c ≠ mark)) t [] := by
          simp [Pattern.ends, Pattern.many, here]
        rw [Pattern.ends, opened, Pattern.flatMap_runEnds dead, dropWhile_ne_eq, pastStretch?,
          if_neg here]
        cases Text.cut? mark t with
        | none => simp [Pattern.ends, Pattern.char]
        | some parts => simp [Pattern.ends, Pattern.char]

/-! ## Clauses -/

def afterClause? (t : Text) : Option Text :=
  (afterKeyword? (Text.skipBlanks t)).bind fun stretches =>
    (pastStretch? '<' stretches).bind (pastStretch? '>')

/-- **A clause matches in one way at most.** -/
theorem ends_clause (t : Text) : Pattern.ends clause t = (afterClause? t).toList := by
  have unfolded : clause =
      .seq (.run Text.isBlank)
        (.seq (.alt (caseless "PREFIX".toList) (caseless "BASE".toList))
          (.seq (.many fun c => decide (c ≠ '<')) (.seq (.char '<')
            (.seq (.many fun c => decide (c ≠ '>')) (.seq (.char '>') .empty))))) := rfl
  rw [unfolded, Pattern.ends, Pattern.ends, Pattern.flatMap_runEnds]
  · simp only [List.flatMap_nil, List.append_nil]
    rw [← Text.skipBlanks, afterClause?, Pattern.ends, ends_keyword]
    cases afterKeyword? (Text.skipBlanks t) with
    | none => rfl
    | some stretches =>
        rw [Option.toList_some, List.flatMap_singleton, ends_stretch, Option.bind_some]
        cases pastStretch? '<' stretches with
        | none => rfl
        | some inside =>
            rw [Option.toList_some, List.flatMap_singleton, ends_stretch, Option.bind_some]
            cases pastStretch? '>' inside with
            | none => rfl
            | some rest => rfl
  · intro c u blank
    rw [Pattern.ends, ends_keyword, afterKeyword?_cons_eq_none (Text.isWord_of_isBlank blank)]
    rfl

/-- A clause is consumed as a whole, and what follows it has no say in where it ends. -/
theorem afterClause?_eq_some_iff {t rest : Text} :
    afterClause? t = some rest ↔ ∃ s ∈ clause.language, t = s ++ rest := by
  rw [← Pattern.mem_ends_iff, ends_clause, Option.mem_toList]

/-- Where a clause ends does not depend on what follows it. -/
theorem afterClause?_append {s : Text} (isClause : s ∈ clause.language) (t : Text) :
    afterClause? (s ++ t) = some t :=
  afterClause?_eq_some_iff.2 ⟨s, isClause, rfl⟩

theorem clause_ne_nil {s : Text} (isClause : s ∈ clause.language) : s ≠ [] := by
  intro empty
  have found := afterClause?_append isClause []
  rw [empty] at found
  cases found

theorem length_lt_of_afterClause? {t rest : Text} (found : afterClause? t = some rest) :
    rest.length < t.length := by
  obtain ⟨s, isClause, rfl⟩ := afterClause?_eq_some_iff.1 found
  have positive : 0 < s.length := List.length_pos_iff.2 (clause_ne_nil isClause)
  rw [List.length_append]
  omega

/-- Induction along the clauses of a prologue. -/
theorem prologue_induction {motive : Text → Prop}
    (stop : ∀ t, afterClause? t = none → motive t)
    (step : ∀ t rest, afterClause? t = some rest → motive rest → motive t) (t : Text) :
    motive t := by
  induction size : t.length using Nat.strongRecOn generalizing t with
  | ind n ih =>
      cases found : afterClause? t with
      | none => exact stop t found
      | some rest =>
          have shorter : rest.length < n := by
            rw [← size]
            exact length_lt_of_afterClause? found
          exact step t rest found (ih rest.length shorter rest rfl)

/-! ## The keyword -/

/-- The word behind the white space at the front of a text, with the text behind it. -/
def wordPlace? (t : Text) : Option (Text × Text) :=
  let here := Text.skipBlanks t
  if Text.leadingWord here = [] then none else some (here, here.dropWhile Text.isWord)

def wordAt? (t : Text) : Option Text :=
  let word := Text.leadingWord (Text.skipBlanks t)
  if word = [] then none else some word

/-- The text from the keyword on, and the text behind it. -/
def keywordPlace? (t : Text) : Option (Text × Text) := prologue.located? (.many Text.isWord) t

theorem head?_ends_word (t : Text) :
    (Pattern.ends (.many Text.isWord) t).head? =
      if Text.leadingWord t = [] then none else some (t.dropWhile Text.isWord) := by
  cases t with
  | nil => rfl
  | cons c t =>
      by_cases word : Text.isWord c = true
      · simp [Pattern.many, Pattern.ends, Text.leadingWord, word, Pattern.head?_runEnds]
      · simp [Pattern.many, Pattern.ends, Text.leadingWord, word]

theorem located?_word (t : Text) :
    Pattern.located? (.run Text.isBlank) (.many Text.isWord) t = wordPlace? t := by
  rw [Pattern.located?_run]
  · rw [Pattern.located?_empty, head?_ends_word, wordPlace?, ← Text.skipBlanks]
    split
    · rfl
    · rfl
  · intro c u blank
    simp [Pattern.many, Pattern.ends, Text.isWord_of_isBlank blank]

/-- The keyword behind a clause comes first, the word at the place of the clause is the
fallback. -/
theorem keywordPlace?_of_clause {t rest : Text} (found : afterClause? t = some rest) :
    keywordPlace? t = (keywordPlace? rest).or (wordPlace? t) := by
  have single : Pattern.ends clause t = [rest] := by rw [ends_clause, found, Option.toList_some]
  rw [keywordPlace?, prologue, Pattern.located?_of_round single (length_lt_of_afterClause? found),
    located?_word]
  rfl

/-- Without a clause the keyword is the word that stands there. -/
theorem keywordPlace?_of_no_clause {t : Text} (none : afterClause? t = none) :
    keywordPlace? t = wordPlace? t := by
  have stuck : Pattern.ends clause t = [] := by rw [ends_clause, none, Option.toList_none]
  rw [keywordPlace?, prologue, Pattern.located?_of_no_round stuck, located?_word]

theorem keyword?_eq_place (t : Text) :
    keyword? t =
      (keywordPlace? t).map fun place => place.1.take (place.1.length - place.2.length) :=
  Pattern.capture?_eq_located? _ _ _

theorem wordAt?_eq_place (t : Text) :
    wordAt? t =
      (wordPlace? t).map fun place => place.1.take (place.1.length - place.2.length) := by
  rw [wordAt?, wordPlace?]
  split
  · rfl
  · rw [Option.map_some, Text.take_eq_leadingWord]

/-- Behind a clause, the keyword of the rest counts before the word of the clause. -/
theorem keyword?_of_clause {t rest : Text} (found : afterClause? t = some rest) :
    keyword? t = (keyword? rest).or (wordAt? t) := by
  rw [keyword?_eq_place, keywordPlace?_of_clause found, Option.map_or, ← keyword?_eq_place,
    ← wordAt?_eq_place]

theorem keyword?_of_no_clause {t : Text} (none : afterClause? t = none) :
    keyword? t = wordAt? t := by
  rw [keyword?_eq_place, keywordPlace?_of_no_clause none, ← wordAt?_eq_place]

/-- White space before a statement changes nothing. -/
theorem keyword?_skipBlanks {t u : Text} (same : Text.skipBlanks t = Text.skipBlanks u) :
    keyword? t = keyword? u := by
  have sameClause : afterClause? t = afterClause? u := by rw [afterClause?, afterClause?, same]
  have sameWord : wordAt? t = wordAt? u := by rw [wordAt?, wordAt?, same]
  cases found : afterClause? t with
  | none =>
      rw [keyword?_of_no_clause found, keyword?_of_no_clause (sameClause ▸ found), sameWord]
  | some rest =>
      have alsoFound : afterClause? u = some rest := sameClause ▸ found
      rw [keyword?_of_clause found, keyword?_of_clause alsoFound, sameWord]

theorem wordAt?_append {blanks word rest : Text} (white : ∀ c ∈ blanks, Text.isBlank c = true)
    (inside : ∀ c ∈ word, Text.isWord c = true) (nonempty : word ≠ [])
    (stops : Text.leadingWord rest = []) : wordAt? (blanks ++ (word ++ rest)) = some word := by
  rw [wordAt?, Text.leadingWord_skipBlanks_append white inside nonempty stops, if_neg nonempty]

/-! ## Verdicts -/

/-- The kind that a keyword tells, if it tells one. -/
def kindOf? (word : Option Text) : Option StatementKind :=
  (word.map Text.upper).bind fun word =>
    if clauseKeywords.contains word then none
    else if updateKeywords.contains word then some .update else some .query

/-- The keyword alone decides over the statement. -/
theorem classify_eq (t : Text) :
    classify t = (kindOf? (keyword? t)).elim (.error (.malformedStatement t)) .ok := by
  rw [classify, kindOf?]
  cases (keyword? t).map Text.upper with
  | none => rfl
  | some word =>
      by_cases isClause : clauseKeywords.contains word = true
      · simp only [Option.bind_some, if_pos isClause, Option.elim_none]
      · by_cases isUpdate : updateKeywords.contains word = true
        · simp only [Option.bind_some, if_neg isClause, if_pos isUpdate, Option.elim_some]
        · simp only [Option.bind_some, if_neg isClause, if_neg isUpdate, Option.elim_some]

theorem classify_eq_ok_iff {t : Text} {kind : StatementKind} :
    classify t = .ok kind ↔ kindOf? (keyword? t) = some kind := by
  rw [classify_eq]
  cases kindOf? (keyword? t) with
  | none => simp
  | some found => simp

theorem classify_eq_malformed_iff {t : Text} :
    classify t = .error (.malformedStatement t) ↔ kindOf? (keyword? t) = none := by
  rw [classify_eq]
  cases kindOf? (keyword? t) with
  | none => simp
  | some found => simp

/-- The statements have the same kind, or both are malformed. -/
def SameVerdict (s t : Text) : Prop :=
  (∃ kind, classify s = .ok kind ∧ classify t = .ok kind) ∨
    classify s = .error (.malformedStatement s) ∧ classify t = .error (.malformedStatement t)

theorem sameVerdict_of_kindOf?_eq {s t : Text}
    (same : kindOf? (keyword? s) = kindOf? (keyword? t)) : SameVerdict s t := by
  cases found : kindOf? (keyword? t) with
  | none =>
      rw [found] at same
      exact Or.inr ⟨classify_eq_malformed_iff.2 same, classify_eq_malformed_iff.2 found⟩
  | some kind =>
      rw [found] at same
      exact Or.inl ⟨kind, classify_eq_ok_iff.2 same, classify_eq_ok_iff.2 found⟩

theorem SameVerdict.classify_eq_ok_iff {s t : Text} {kind : StatementKind}
    (same : SameVerdict s t) : classify s = .ok kind ↔ classify t = .ok kind := by
  rcases same with ⟨found, first, second⟩ | ⟨first, second⟩
  · rw [first, second]
  · rw [first, second]
    exact ⟨nofun, nofun⟩

end SparqlRequest.StatementKind
