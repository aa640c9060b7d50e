/-
# Proofs.Lexical.Name -- the grammars of names and language tags, and their characters

A label is empty, or a letter and label characters behind it; in particular it holds no
colon, so the first colon of a prefixed name ends its label.  A local name and a language
tag hold no space, so the space behind a term ends it.

A language tag is told by its parts between the hyphens (`isLanguageTag_iff`).  The pattern
repeats a hyphen and the part behind it, so a word of it is the parts joined by hyphens, and no
part holds one: splitting at the hyphens finds the parts again.
-/
import SparqlRequest.Lexical.Name
import SparqlRequest.Proofs.Pattern.Language
import SparqlRequest.Proofs.Text.Split

set_option autoImplicit false

namespace SparqlRequest.Lexical

open Pattern
open scoped Computability

def isLabelChar (c : Char) : Bool := c.isAlphanum || c = '_' || c = '.' || c = '-'

theorem isLabel_iff {t : Text} :
    isLabel t = true ↔
      t = [] ∨ ∃ c rest, t = c :: rest ∧ c.isAlpha = true ∧ ∀ d ∈ rest, isLabelChar d = true := by
  rw [isLabel, matchesAll_iff, labelPattern, mem_language_optional, mem_language_seq]
  constructor
  · rintro (⟨_, ⟨c, letter, rfl⟩, rest, inside, rfl⟩ | rfl)
    · exact Or.inr ⟨c, rest, rfl, letter, inside⟩
    · exact Or.inl rfl
  · rintro (rfl | ⟨c, rest, rfl, letter, inside⟩)
    · exact Or.inr rfl
    · exact Or.inl ⟨[c], ⟨c, letter, rfl⟩, rest, inside, rfl⟩

theorem isLabelChar_of_isLabel {t : Text} (label : isLabel t = true) :
    ∀ c ∈ t, isLabelChar c = true := by
  rcases isLabel_iff.1 label with rfl | ⟨c, rest, rfl, letter, inside⟩
  · exact List.forall_mem_nil _
  · refine List.forall_mem_cons.2 ⟨?_, inside⟩
    simp [isLabelChar, Char.isAlphanum, letter]

theorem colon_not_mem_of_isLabel {t : Text} (label : isLabel t = true) : ':' ∉ t := by
  intro member
  exact absurd (isLabelChar_of_isLabel label ':' member) (by decide)

theorem space_not_mem_of_isLocalName {t : Text} (localName : isLocalName t = true) : ' ' ∉ t := by
  intro member
  have allowed := List.all_eq_true.1 localName ' ' member
  exact absurd allowed (by decide)

def isTagChar (c : Char) : Bool := c.isAlphanum || c = '-'

theorem isTagChar_of_isLanguageTag {t : Text} (tag : isLanguageTag t = true) :
    ∀ c ∈ t, isTagChar c = true := by
  have letter : ∀ c : Char, c.isAlpha = true → isTagChar c = true := by
    intro c isAlpha
    simp [isTagChar, Char.isAlphanum, isAlpha]
  have letterOrDigit : ∀ c : Char, c.isAlphanum = true → isTagChar c = true := by
    intro c isAlphanum
    simp [isTagChar, isAlphanum]
  have hyphen : (char '-').Within (isTagChar · = true) := by
    intro c same
    obtain rfl : c = '-' := by simpa using same
    rfl
  have within : languageTagPattern.Within (isTagChar · = true) :=
    ⟨⟨letter, letter⟩, hyphen, letterOrDigit, letterOrDigit⟩
  exact forall_mem_of_within within (matchesAll_iff.1 tag)

theorem space_not_mem_of_isLanguageTag {t : Text} (tag : isLanguageTag t = true) : ' ' ∉ t := by
  intro member
  exact absurd (isTagChar_of_isLanguageTag tag ' ' member) (by decide)

/-! ## The grammars -/

/-- At least one character, and only characters of a class. -/
def IsFilled (allowed : Char → Bool) (t : Text) : Prop := t ≠ [] ∧ ∀ c ∈ t, allowed c = true

/-- The parts of a language tag: letters first, letters and digits later, none of them empty. -/
def AreTagParts : List Text → Prop
  | [] => False
  | first :: later =>
      IsFilled Char.isAlpha first ∧ ∀ part ∈ later, IsFilled Char.isAlphanum part

/-- Between its hyphens the text has the parts of a language tag. -/
def TagGrammar (t : Text) : Prop := AreTagParts (Text.splitOn '-' t)

/-- Nothing, or a letter and then letters, digits, underscores, points and hyphens. -/
def LabelGrammar : Text → Prop
  | [] => True
  | c :: rest => c.isAlpha = true ∧ ∀ d ∈ rest, isLabelChar d = true

/-- None of the fourteen characters that could end a prefixed name or open something else. -/
def LocalNameGrammar (t : Text) : Prop :=
  ∀ c ∈ t, c ∉ "\x00 \t\r\n<>\"\x7b\x7d|^\x60\\".toList

/-- The checker of labels accepts exactly the grammar. -/
theorem isLabel_iff_grammar {t : Text} : isLabel t = true ↔ LabelGrammar t := by
  rw [isLabel_iff]
  cases t with
  | nil => simp [LabelGrammar]
  | cons c rest => simp [LabelGrammar]

/-- The checker of local names accepts exactly the grammar. -/
theorem isLocalName_iff_grammar {t : Text} : isLocalName t = true ↔ LocalNameGrammar t := by
  have fourteen : localForbidden = "\x00 \t\r\n<>\"\x7b\x7d|^\x60\\".toList := rfl
  simp [isLocalName, LocalNameGrammar, fourteen]

instance (t : Text) : Decidable (LabelGrammar t) :=
  decidable_of_iff (isLabel t = true) isLabel_iff_grammar

instance (t : Text) : Decidable (LocalNameGrammar t) :=
  decidable_of_iff (isLocalName t = true) isLocalName_iff_grammar

/-- A label begins with a letter, a local name with any character that is not forbidden. -/
example : ¬ LabelGrammar "-x".toList ∧ LocalNameGrammar "-x:1".toList := by decide

/-- Any number of rounds, each a mark and a part behind it. -/
theorem mem_language_star_marked {mark : Char} {allowed : Char → Bool} {t : Text} :
    t ∈ (Pattern.star (.seq (.char mark) (.many allowed))).language ↔
      ∃ parts : List Text, (∀ part ∈ parts, IsFilled allowed part) ∧
        t = (parts.map (mark :: ·)).flatten := by
  have unfolded : (Pattern.star (.seq (.char mark) (.many allowed))).language =
    (Pattern.seq (.char mark) (.many allowed)).language∗ := rfl
  rw [unfolded, Language.mem_kstar]
  constructor
  · rintro ⟨rounds, rfl, areRounds⟩
    induction rounds with
    | nil => exact ⟨[], List.forall_mem_nil _, rfl⟩
    | cons round rounds ih =>
        obtain ⟨isRound, areLater⟩ := List.forall_mem_cons.1 areRounds
        obtain ⟨_, isMark, part, isPart, rfl⟩ := mem_language_seq.1 isRound
        obtain rfl := mem_language_char.1 isMark
        obtain ⟨parts, areFilled, same⟩ := ih areLater
        refine ⟨part :: parts, ?_, ?_⟩
        · exact List.forall_mem_cons.2 ⟨mem_language_many.1 isPart, areFilled⟩
        · simp [same]
  · rintro ⟨parts, areFilled, rfl⟩
    refine ⟨parts.map (mark :: ·), rfl, ?_⟩
    intro round member
    obtain ⟨part, isPart, rfl⟩ := List.mem_map.1 member
    exact mem_language_seq.2
      ⟨[mark], mem_language_char.2 rfl, part, mem_language_many.2 (areFilled part isPart), rfl⟩

theorem hyphen_not_mem_of_areTagParts {parts : List Text} (areParts : AreTagParts parts) :
    ∀ part ∈ parts, '-' ∉ part := by
  cases parts with
  | nil => exact absurd areParts id
  | cons first later =>
      obtain ⟨letters, lettersOrDigits⟩ := areParts
      refine List.forall_mem_cons.2 ⟨?_, ?_⟩
      · intro member
        exact absurd (letters.2 '-' member) (by decide)
      · intro part isLater member
        exact absurd ((lettersOrDigits part isLater).2 '-' member) (by decide)

/-- **A language tag is told by its parts between the hyphens.** -/
theorem isLanguageTag_iff {t : Text} : isLanguageTag t = true ↔ TagGrammar t := by
  rw [isLanguageTag, matchesAll_iff, languageTagPattern, mem_language_seq]
  constructor
  · rintro ⟨first, isFirst, _, isTail, rfl⟩
    obtain ⟨later, areFilled, rfl⟩ := mem_language_star_marked.1 isTail
    have areParts : AreTagParts (first :: later) := ⟨mem_language_many.1 isFirst, areFilled⟩
    -- no part holds a hyphen, so the split finds the rounds of the pattern again
    rw [TagGrammar, ← Text.joinWith_cons, Text.splitOn_joinWith (List.cons_ne_nil first later)
      (hyphen_not_mem_of_areTagParts areParts)]
    exact areParts
  · intro grammar
    obtain ⟨first, later, split⟩ := List.exists_cons_of_ne_nil (Text.splitOn_ne_nil '-' t)
    rw [TagGrammar, split] at grammar
    obtain ⟨isFirst, areFilled⟩ := grammar
    refine ⟨first, mem_language_many.2 isFirst, (later.map ('-' :: ·)).flatten,
      mem_language_star_marked.2 ⟨later, areFilled, rfl⟩, ?_⟩
    rw [← Text.joinWith_cons, ← split, Text.joinWith_splitOn]

instance (t : Text) : Decidable (TagGrammar t) :=
  decidable_of_iff (isLanguageTag t = true) isLanguageTag_iff

/-- A text with an empty part at either end, or a line end behind the last one, is no tag. -/
example :
    ¬ TagGrammar "-en".toList ∧ ¬ TagGrammar "en-".toList ∧ ¬ TagGrammar "en-GB\n".toList := by
  decide

end SparqlRequest.Lexical
