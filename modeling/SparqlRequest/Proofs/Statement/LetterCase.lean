/-
# Proofs.Statement.LetterCase -- the kind of a statement does not depend on letter case

Keywords are read in two ways.  The search takes PREFIX and BASE by folding one character at a
time; what it captures is compared after upper-casing, which can make several characters of one.
Outside ASCII the two disagree, on the long s and the dotless i for example.  Neither, however,
tells an ASCII letter from its other case, and no test of the search does: white space and the
angle brackets are no letters, and all letters are word characters.

So the search commutes with lower-casing whatever stands beside the letters: each of its parts
does, and the keyword follows by induction along the clauses (`keyword?_lower`).  Upper-casing
forgets the difference again, and texts that agree up to the case of ASCII letters get the same
verdict (`sameVerdict_of_caseVariant`).
-/
import Mathlib
import SparqlRequest.Proofs.Statement.Prologue

set_option autoImplicit false

namespace SparqlRequest

namespace Text

/-! ## Letters -/

theorem toLower_of_not_isAlpha {c : Char} (noLetter : c.isAlpha = false) : c.toLower = c := by
  apply Char.toLower_eq_of_not_isUpper
  intro capital
  have letter : (c.isUpper || c.isLower) = true := by rw [capital, Bool.true_or]
  exact Bool.false_ne_true (noLetter.symm.trans letter)

/-- What depends on letters through their upper case alone does not depend on their case. -/
theorem toLower_invariant {α : Type} {f g : Char → α}
    (letters : ∀ c : Char, c.isAlpha = true → f c = g c.toUpper) (c : Char) :
    f c.toLower = f c := by
  cases letter : c.isAlpha with
  | true =>
      have lowerLetter : c.toLower.isAlpha = true := by
        rw [Char.isAlpha_toLower_eq_isAlpha, letter]
      rw [letters c letter, letters c.toLower lowerLetter, Char.toUpper_toLower_eq_toUpper]
  | false => rw [toLower_of_not_isAlpha letter]

theorem ne_of_isAlpha {c mark : Char} (letter : c.isAlpha = true)
    (noLetter : mark.isAlpha = false) : c ≠ mark := by
  rintro rfl
  rw [letter] at noLetter
  cases noLetter

theorem toLower_eq_mark_iff {mark : Char} (noLetter : mark.isAlpha = false) (c : Char) :
    c.toLower = mark ↔ c = mark :=
  iff_of_eq (toLower_invariant (f := fun d => d = mark) (g := fun _ => False)
    (fun _ letter => eq_false (ne_of_isAlpha letter noLetter)) c)

theorem isWord_toLower (c : Char) : isWord c.toLower = isWord c :=
  toLower_invariant (g := fun _ => true) (fun _ letter => isWord_of_isAlpha letter) c

theorem isBlank_of_isAlpha {c : Char} (letter : c.isAlpha = true) : isBlank c = false :=
  startsBlank_of_isWord (isWord_of_isAlpha letter) []

theorem isBlank_toLower (c : Char) : isBlank c.toLower = isBlank c :=
  toLower_invariant (g := fun _ => false) (fun _ letter => isBlank_of_isAlpha letter) c

/-- The long s and the Kelvin sign are no ASCII letters, so folding a letter is lower-casing. -/
theorem fold_of_isAlpha {c : Char} (letter : c.isAlpha = true) : fold c = c.toLower := by
  rw [fold, if_neg (ne_of_isAlpha letter rfl), if_neg (ne_of_isAlpha letter rfl)]

/-- Folding does not see the case of ASCII letters. -/
theorem fold_toLower (c : Char) : fold c.toLower = fold c := by
  apply toLower_invariant (g := Char.toLower)
  intro c letter
  rw [fold_of_isAlpha letter, Char.toLower_toUpper_eq_toLower]

/-- No ASCII letter is among the characters with an upper case of their own. -/
theorem upperChar_of_isAlpha {c : Char} (letter : c.isAlpha = true) :
    upperChar c = [c.toUpper] := by
  have notMark : ∀ {mark : Char}, mark.isAlpha = false → c ≠ mark := ne_of_isAlpha letter
  have notLigature : (decide (c = '\uFB05') || decide (c = '\uFB06')) = false := by
    rw [decide_eq_false (notMark rfl), decide_eq_false (notMark rfl), Bool.false_or]
  rw [upperChar, if_neg (notMark rfl), if_neg (notMark rfl), if_neg (notMark rfl),
    if_neg (notMark rfl), if_neg (notMark rfl), if_neg (notMark rfl), if_neg (notMark rfl),
    if_neg (notMark rfl), notLigature, if_neg Bool.false_ne_true]

theorem upperChar_toLower (c : Char) : upperChar c.toLower = upperChar c :=
  toLower_invariant (g := fun d => [d]) (fun _ letter => upperChar_of_isAlpha letter) c

/-! ## Texts -/

/-- The text in lower case, as far as it is ASCII. -/
def lower (t : Text) : Text := t.map Char.toLower

/-- The texts differ in the case of ASCII letters at most: they have the same length, and place
by place the same character or the two cases of one letter. -/
def CaseVariant (s t : Text) : Prop := List.Forall₂ (fun c d => c.toLower = d.toLower) s t

/-- Case variants are the texts with one lower-case form. -/
theorem caseVariant_iff_lower_eq {s t : Text} : CaseVariant s t ↔ lower s = lower t := by
  rw [CaseVariant, lower, lower, ← List.forall₂_eq_eq_eq, List.forall₂_map_left_iff,
    List.forall₂_map_right_iff]

instance (s t : Text) : Decidable (CaseVariant s t) :=
  decidable_of_iff (lower s = lower t) caseVariant_iff_lower_eq.symm

theorem upper_lower (t : Text) : upper (lower t) = upper t := by
  rw [upper, upper, lower, List.flatMap_map]
  simp only [upperChar_toLower]

theorem skipBlanks_lower (t : Text) : skipBlanks (lower t) = lower (skipBlanks t) := by
  have unseen : isBlank ∘ Char.toLower = isBlank := funext isBlank_toLower
  rw [skipBlanks, lower, List.dropWhile_map, unseen, ← skipBlanks, ← lower]

theorem leadingWord_lower (t : Text) : leadingWord (lower t) = lower (leadingWord t) := by
  have unseen : isWord ∘ Char.toLower = isWord := funext isWord_toLower
  rw [leadingWord, lower, List.takeWhile_map, unseen, ← leadingWord, ← lower]

theorem cut?_lower {mark : Char} (noLetter : mark.isAlpha = false) (t : Text) :
    cut? mark (lower t) = (cut? mark t).map fun parts => (lower parts.1, lower parts.2) := by
  induction t with
  | nil => rfl
  | cons c t ih =>
      have head : lower (c :: t) = c.toLower :: lower t := rfl
      by_cases here : c = mark
      · rw [head, cut?, cut?, if_pos here, if_pos ((toLower_eq_mark_iff noLetter c).2 here)]
        rfl
      · rw [head, cut?, cut?, if_neg here, if_neg (mt (toLower_eq_mark_iff noLetter c).1 here), ih,
          Option.map_map, Option.map_map]
        rfl

end Text

namespace StatementKind

/-! ## Clauses -/

theorem afterCaseless?_lower (word t : Text) :
    afterCaseless? word (Text.lower t) = (afterCaseless? word t).map Text.lower := by
  induction word generalizing t with
  | nil => rfl
  | cons c word ih =>
      cases t with
      | nil => rfl
      | cons d t =>
          have head : Text.lower (d :: t) = d.toLower :: Text.lower t := rfl
          rw [head, afterCaseless?, afterCaseless?, Text.fold_toLower]
          split
          · exact ih t
          · rfl

theorem afterKeyword?_lower (t : Text) :
    afterKeyword? (Text.lower t) = (afterKeyword? t).map Text.lower := by
  rw [afterKeyword?, afterKeyword?, afterCaseless?_lower, afterCaseless?_lower, Option.map_or]

theorem pastStretch?_lower {mark : Char} (noLetter : mark.isAlpha = false) (t : Text) :
    pastStretch? mark (Text.lower t) = (pastStretch? mark t).map Text.lower := by
  cases t with
  | nil => rfl
  | cons c t =>
      have head : Text.lower (c :: t) = c.toLower :: Text.lower t := rfl
      by_cases here : c = mark
      · rw [head, pastStretch?, pastStretch?, if_pos here,
          if_pos ((Text.toLower_eq_mark_iff noLetter c).2 here)]
        rfl
      · rw [head, pastStretch?, pastStretch?, if_neg here,
          if_neg (mt (Text.toLower_eq_mark_iff noLetter c).1 here), Text.cut?_lower noLetter,
          Option.map_map, Option.map_map]
        rfl

/-- A clause stands at the front of a text in any letter case, and ends at the same place. -/
theorem afterClause?_lower (t : Text) :
    afterClause? (Text.lower t) = (afterClause? t).map Text.lower := by
  rw [afterClause?, afterClause?, Text.skipBlanks_lower, afterKeyword?_lower]
  cases afterKeyword? (Text.skipBlanks t) with
  | none => rfl
  | some stretches =>
      rw [Option.map_some, Option.bind_some, Option.bind_some, pastStretch?_lower rfl]
      cases pastStretch? '<' stretches with
      | none => rfl
      | some inside =>
          rw [Option.map_some, Option.bind_some, Option.bind_some, pastStretch?_lower rfl]

/-! ## The keyword -/

/-- The word that is captured follows the text into lower case. -/
theorem wordAt?_lower (t : Text) : wordAt? (Text.lower t) = (wordAt? t).map Text.lower := by
  rw [wordAt?, wordAt?, Text.skipBlanks_lower, Text.leadingWord_lower]
  by_cases noWord : Text.leadingWord (Text.skipBlanks t) = []
  · rw [noWord]
    rfl
  · have noWordLower : Text.lower (Text.leadingWord (Text.skipBlanks t)) ≠ [] :=
      mt List.map_eq_nil_iff.1 noWord
    rw [if_neg noWord, if_neg noWordLower, Option.map_some]

/-- **The search for the keyword commutes with lower-casing**: it goes along the same clauses and
back to the same place. -/
theorem keyword?_lower (t : Text) : keyword? (Text.lower t) = (keyword? t).map Text.lower := by
  induction t using prologue_induction with
  | stop t noClause =>
      have noClauseLower : afterClause? (Text.lower t) = none := by
        rw [afterClause?_lower, noClause, Option.map_none]
      rw [keyword?_of_no_clause noClause, keyword?_of_no_clause noClauseLower, wordAt?_lower]
  | step t rest found ih =>
      have foundLower : afterClause? (Text.lower t) = some (Text.lower rest) := by
        rw [afterClause?_lower, found, Option.map_some]
      rw [keyword?_of_clause found, keyword?_of_clause foundLower, ih, wordAt?_lower,
        Option.map_or]

/-! ## The verdict -/

theorem rel_of_map_lower_eq {first second : Option Text}
    (same : first.map Text.lower = second.map Text.lower) :
    Option.Rel Text.CaseVariant first second := by
  cases first with
  | none =>
      rw [Option.map_none, eq_comm, Option.map_eq_none_iff] at same
      rw [same]
      exact Option.Rel.none
  | some word =>
      obtain ⟨other, found, agree⟩ := Option.map_eq_some_iff.1 same.symm
      rw [found]
      exact Option.Rel.some (Text.caseVariant_iff_lower_eq.2 agree.symm)

/-- A keyword tells its kind in any case. -/
theorem kindOf?_map_lower (word : Option Text) : kindOf? (word.map Text.lower) = kindOf? word := by
  have unseen : Text.upper ∘ Text.lower = Text.upper := funext Text.upper_lower
  rw [kindOf?, kindOf?, Option.map_map, unseen]

/-- **Letter case does not change the verdict.**  In texts that differ in the case of ASCII
letters at most the search captures the same word up to case, or none in either, and they are
statements of the same kind, or both are malformed. -/
theorem sameVerdict_of_caseVariant {s t : Text} (variant : Text.CaseVariant s t) :
    Option.Rel Text.CaseVariant (keyword? s) (keyword? t) ∧ SameVerdict s t := by
  have sameLower : (keyword? s).map Text.lower = (keyword? t).map Text.lower := by
    rw [← keyword?_lower, ← keyword?_lower, Text.caseVariant_iff_lower_eq.1 variant]
  constructor
  · exact rel_of_map_lower_eq sameLower
  · apply sameVerdict_of_kindOf?_eq
    calc kindOf? (keyword? s)
        = kindOf? ((keyword? s).map Text.lower) := (kindOf?_map_lower _).symm
      _ = kindOf? ((keyword? t).map Text.lower) := by rw [sameLower]
      _ = kindOf? (keyword? t) := kindOf?_map_lower _

/-- Keyword, prefix name, IRI and body in another case, beside a long s, which folds to a letter,
and a dotless i, whose upper case is one. -/
theorem sameVerdict_drop :
    let written : Text := "prefix \u017Fa: <http://a/\u0131B>\ndrop graph <C>".toList
    let shouted : Text := "PREFIX \u017FA: <HTTP://A/\u0131b>\nDROP GRAPH <c>".toList
    Text.CaseVariant written shouted ∧ written ≠ shouted ∧
      classify written = .ok .update ∧ SameVerdict written shouted :=
  ⟨by decide, by decide, classify_eq_ok_iff.2 (by decide +kernel),
    (sameVerdict_of_caseVariant (by decide)).2⟩

end StatementKind

end SparqlRequest
