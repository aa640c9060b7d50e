/-
# Proofs.Lexical.Delimiter -- where a delimiter can begin in an escaped text

From the left, an escaped text falls into units: a plain character, or a backslash with the
character behind it.  A backslash at the very end has nothing behind it and is left over.  A
`Division` holds units and says whether a backslash is left over, so a text has one division and
no other (`Division.existsUnique_text`).

`clearOf` looks for a mark at the plain units of the division and at no other place
(`Division.clearOf_text_eq_false_iff`); from there the mark may run on over the units behind,
escaped ones included.  In the body of a literal no plain unit is an apostrophe or a quotation
mark, so no delimiter begins in it, whichever is chosen (`clearOf_escape`).
-/
import SparqlRequest.Proofs.Lexical.Escape

set_option autoImplicit false

namespace SparqlRequest.Lexical

/-! ## Units from the left -/

/-- A unit of an escaped text. -/
inductive EscapeUnit where
  /-- A character that is no backslash. -/
  | plain (c : Char) (noBackslash : c ≠ '\\')
  /-- A backslash with the character behind it. -/
  | escaped (c : Char)
  deriving DecidableEq, Repr

def EscapeUnit.text : EscapeUnit → Text
  | .plain c _ => [c]
  | .escaped c => ['\\', c]

/-- The units of an escaped text, and whether a backslash is left over behind them. -/
structure Division where
  units : List EscapeUnit
  leftOver : Bool
  deriving DecidableEq, Repr

namespace Division

def text (division : Division) : Text :=
  division.units.flatMap EscapeUnit.text ++ if division.leftOver then ['\\'] else []

def cons (unit : EscapeUnit) (division : Division) : Division :=
  ⟨unit :: division.units, division.leftOver⟩

@[simp] theorem text_cons (unit : EscapeUnit) (division : Division) :
    (cons unit division).text = unit.text ++ division.text := by
  rw [cons, text, text, List.flatMap_cons, List.append_assoc]

/-- Induction on the units from the last to the first, with or without a backslash left over. -/
@[elab_as_elim]
theorem cons_induction {motive : Division → Prop} (empty : motive ⟨[], false⟩)
    (leftOver : motive ⟨[], true⟩)
    (step : ∀ unit division, motive division → motive (cons unit division))
    (division : Division) : motive division := by
  obtain ⟨units, isOver⟩ := division
  induction units with
  | nil =>
      cases isOver with
      | false => exact empty
      | true => exact leftOver
  | cons unit units ih => exact step unit ⟨units, isOver⟩ ih

def ofText : Text → Division
  | [] => ⟨[], false⟩
  | [c] => if plain : c ≠ '\\' then ⟨[.plain c plain], false⟩ else ⟨[], true⟩
  | c :: d :: t =>
      if plain : c ≠ '\\' then cons (.plain c plain) (ofText (d :: t))
      else cons (.escaped d) (ofText t)

theorem ofText_plain {c : Char} (plain : c ≠ '\\') (t : Text) :
    ofText (c :: t) = cons (.plain c plain) (ofText t) := by
  cases t with
  | nil => simp [ofText, plain, cons]
  | cons d t => simp [ofText, plain]

theorem ofText_escaped (d : Char) (t : Text) :
    ofText ('\\' :: d :: t) = cons (.escaped d) (ofText t) := by
  simp [ofText]

/-- Dividing a text loses nothing of it. -/
theorem text_ofText (t : Text) : (ofText t).text = t := by
  induction t using ofText.induct with
  | case1 => rfl
  | case2 c plain => simp [ofText, plain, text, EscapeUnit.text]
  | case3 c backslash =>
      obtain rfl : c = '\\' := not_not.1 backslash
      rfl
  | case4 c d t plain ih => rw [ofText_plain plain, text_cons, ih]; rfl
  | case5 c d t backslash ih =>
      obtain rfl : c = '\\' := not_not.1 backslash
      rw [ofText_escaped, text_cons, ih]
      rfl

/-- Units are read back from their text, so no text has two divisions. -/
theorem ofText_text (division : Division) : ofText division.text = division := by
  induction division using cons_induction with
  | empty => rfl
  | leftOver => rfl
  | step unit division ih =>
      rw [text_cons]
      cases unit with
      | plain c plain =>
          show ofText (c :: division.text) = _
          rw [ofText_plain plain, ih]
      | escaped c =>
          show ofText ('\\' :: c :: division.text) = _
          rw [ofText_escaped, ih]

/-- A text is divided in one way. -/
theorem existsUnique_text (t : Text) : ∃! division : Division, division.text = t := by
  refine ⟨ofText t, text_ofText t, ?_⟩
  rintro division rfl
  exact (ofText_text division).symm

end Division

/-! ## Where a mark begins -/

theorem clearOf_plain {c : Char} (plain : c ≠ '\\') (mark t : Text) :
    clearOf mark (c :: t) = (!Text.startsWith mark (c :: t) && clearOf mark t) := by
  cases t with
  | nil => simp [clearOf, plain]
  | cons d t => simp [clearOf, plain]

theorem clearOf_escaped (mark : Text) (d : Char) (t : Text) :
    clearOf mark ('\\' :: d :: t) = clearOf mark t := by
  simp [clearOf]

namespace Division

/-- The mark begins at a plain unit of the division. -/
def MeetsPlain (mark : Text) (division : Division) : Prop :=
  ∃ front c plain back, division.units = front ++ .plain c plain :: back ∧
    mark <+: text ⟨.plain c plain :: back, division.leftOver⟩

theorem not_meetsPlain_of_no_units {mark : Text} (isOver : Bool) :
    ¬ MeetsPlain mark ⟨[], isOver⟩ := by
  rintro ⟨front, c, plain, back, split, _⟩
  simp at split

/-- One more unit in front adds one more place at which the mark can begin. -/
theorem meetsPlain_cons_iff {mark : Text} {unit : EscapeUnit} {division : Division} :
    MeetsPlain mark (cons unit division) ↔
      ((∃ c plain, unit = .plain c plain) ∧ mark <+: (cons unit division).text) ∨
        MeetsPlain mark division := by
  constructor
  · rintro ⟨front, c, plain, back, split, begins⟩
    rcases List.cons_eq_append_iff.1 split with ⟨rfl, here⟩ | ⟨front, rfl, later⟩
    · obtain ⟨rfl, rfl⟩ := List.cons.inj here
      exact Or.inl ⟨⟨c, plain, rfl⟩, begins⟩
    · exact Or.inr ⟨front, c, plain, back, later, begins⟩
  · rintro (⟨⟨c, plain, rfl⟩, begins⟩ | ⟨front, c, plain, back, split, begins⟩)
    · exact ⟨[], c, plain, division.units, rfl, begins⟩
    · exact ⟨unit :: front, c, plain, back, congrArg (unit :: ·) split, begins⟩

/-- **The look at a body is exact**: it finds the mark where it begins at a plain unit. -/
theorem clearOf_text_eq_false_iff {mark : Text} {division : Division} :
    clearOf mark division.text = false ↔ division.MeetsPlain mark := by
  induction division using cons_induction with
  | empty => simp [not_meetsPlain_of_no_units, text, clearOf]
  | leftOver => simp [not_meetsPlain_of_no_units, text, clearOf]
  | step unit division ih =>
      rw [meetsPlain_cons_iff, text_cons]
      cases unit with
      | plain c plain =>
          have isPlain : ∃ d noBackslash, EscapeUnit.plain c plain = .plain d noBackslash :=
            ⟨c, plain, rfl⟩
          show clearOf mark (c :: division.text) = false ↔ _
          rw [clearOf_plain plain, Bool.and_eq_false_iff, Bool.not_eq_false', Text.startsWith_iff,
            ih, and_iff_right isPlain]
          rfl
      | escaped c =>
          show clearOf mark ('\\' :: c :: division.text) = false ↔ _
          rw [clearOf_escaped, ih]
          simp

/-- A mark begins at a plain character and may run on over an escape. -/
example : clearOf "a\\".toList "xa\\b".toList = false := by decide

/-- No mark begins where all characters are escaped, not even the empty one. -/
example : clearOf [] "\\a\\b\\".toList = true := by decide

end Division

/-! ## The body of a literal -/

/-- A mark that opens like a delimiter begins at no character of a text and in none of its
escapes. -/
theorem clearOf_escapeChar_append {opening : Char} (isMark : isQuoteMark opening = true)
    (mark : Text) (c : Char) (t : Text) :
    clearOf (opening :: mark) (escapeChar c ++ t) = clearOf (opening :: mark) t := by
  rcases escapeChar_eq c with ⟨unescaped, written⟩ | ⟨letter, _, written⟩
  · -- what is written as it is, is neither a backslash nor the character that opens the mark
    have plain : c ≠ '\\' := by
      rintro rfl
      exact absurd unescaped (by decide)
    have elsewhere : opening ≠ c := (ne_of_escapeChar isMark written).symm
    rw [written, List.singleton_append, clearOf_plain plain]
    simp [Text.startsWith, Text.after?, elsewhere]
  · rw [written]
    exact clearOf_escaped _ letter t

/-- **No delimiter begins in the body of a literal**, the chosen one or another. -/
theorem clearOf_escape (delimiter : Delimiter) (s : Text) :
    clearOf delimiter.text (escape s) = true := by
  obtain ⟨opening, mark, written, isMark⟩ :
      ∃ opening mark, delimiter.text = opening :: mark ∧ isQuoteMark opening = true := by
    cases delimiter <;> exact ⟨_, _, rfl, rfl⟩
  rw [written]
  induction s with
  | nil => rfl
  | cons c s ih => rw [escape_cons, clearOf_escapeChar_append isMark, ih]

/-- The look at the body before a literal is put together never finds the delimiter. -/
theorem guardedQuote_eq (s : Text) : guardedQuote s = .ok (quote s) := by
  simp [guardedQuote, clearOf_escape, quote]

/-- **What keeps clear of a delimiter.**  A text is divided in one way, and fails to keep clear
of a mark exactly where the mark begins at a plain unit.  The body of a literal keeps clear of
every delimiter, so a literal is put together whatever the text is. -/
theorem clearOf_by_division :
    (∀ t, ∃! division : Division, division.text = t) ∧
      (∀ mark (division : Division),
        clearOf mark division.text = false ↔ division.MeetsPlain mark) ∧
      (∀ (delimiter : Delimiter) s, clearOf delimiter.text (escape s) = true) ∧
      ∀ s, guardedQuote s = .ok (quote s) :=
  ⟨Division.existsUnique_text, fun _ _ => Division.clearOf_text_eq_false_iff, clearOf_escape,
    guardedQuote_eq⟩

end SparqlRequest.Lexical
