/-
# Proofs.Lexical.BareType -- a bare value shows its type

Of the four types with bare values only the booleans have no digit, only the doubles
have a digit and an exponent, and of the other two the point tells which.  So the
type can be read off the text (`shownBy`), no text is a bare value of two types
(`eq_of_accepts`), and a bare value holds no blank, no colon, and no character that
opens another kind of term (`isBareChar_of_accepts`).

`bareForm?` gives back the value itself, or for a double the value with its exponent
added; either way the result is a bare value of the type (`accepts_of_bareForm?`).
-/
import SparqlRequest.Lexical.BareType
import SparqlRequest.Proofs.Pattern.Language

set_option autoImplicit false

namespace SparqlRequest.Lexical.BareType

open Pattern

theorem accepts_iff {type : BareType} {t : Text} :
    type.accepts t = true ↔ t ∈ type.pattern.language :=
  matchesAll_iff

/-! ## The characters of bare values -/

def isExponentMark (c : Char) : Bool := c = 'e' || c = 'E'

def isBareChar (c : Char) : Bool := c.isAlphanum || c = '+' || c = '-' || c = '.'

section Alphabets

variable {inside : Char → Prop}

theorem within_sign (plus : inside '+') (minus : inside '-') :
    Pattern.sign.Within inside := by
  refine ⟨fun c sign => ?_, trivial⟩
  simp only [Bool.or_eq_true, decide_eq_true_eq] at sign
  rcases sign with rfl | rfl
  · exact plus
  · exact minus

theorem within_char {c : Char} (isInside : inside c) : (char c).Within inside := by
  intro d same
  obtain rfl : d = c := by simpa using same
  exact isInside

variable (digit : ∀ c, Char.isDigit c = true → inside c) (plus : inside '+') (minus : inside '-')
include digit plus minus

theorem within_integer : (pattern .integer).Within inside :=
  ⟨within_sign plus minus, digit, digit⟩

theorem within_decimal (point : inside '.') : (pattern .decimal).Within inside :=
  ⟨within_sign plus minus, digit, within_char point, ⟨digit, digit⟩, trivial⟩

theorem within_double (point : inside '.') (mark : ∀ c, isExponentMark c = true → inside c) :
    (pattern .double).Within inside :=
  ⟨within_sign plus minus,
    ⟨⟨⟨digit, digit⟩, within_char point, digit, trivial⟩,
      ⟨within_char point, digit, digit⟩, digit, digit⟩,
    mark, within_sign plus minus, ⟨digit, digit⟩, trivial⟩

end Alphabets

theorem ne_of_isDigit {c d : Char} (digit : c.isDigit = true) (other : d.isDigit = false) :
    c ≠ d := by
  rintro rfl
  rw [digit] at other
  cases other

theorem isExponentMark_of_isDigit {c : Char} (digit : c.isDigit = true) :
    isExponentMark c = false := by
  simp [isExponentMark, ne_of_isDigit digit]

/-- Bare values are made of digits, signs, points and letters. -/
theorem isBareChar_of_accepts {type : BareType} {t : Text} (accepted : type.accepts t = true) :
    ∀ c ∈ t, isBareChar c = true := by
  have digit : ∀ c : Char, c.isDigit = true → isBareChar c = true := by
    intro c isDigit
    simp [isBareChar, Char.isAlphanum, isDigit]
  have matched := accepts_iff.1 accepted
  cases type with
  | boolean =>
      rcases mem_language_alt.1 matched with isTrue | isFalse
      · rw [mem_language_word.1 isTrue]
        exact List.all_eq_true.1 rfl
      · rw [mem_language_word.1 isFalse]
        exact List.all_eq_true.1 rfl
  | integer => exact forall_mem_of_within (within_integer digit rfl rfl) matched
  | decimal => exact forall_mem_of_within (within_decimal digit rfl rfl rfl) matched
  | double =>
      have mark : ∀ c, isExponentMark c = true → isBareChar c = true := by
        intro c isMark
        simp only [isExponentMark, Bool.or_eq_true, decide_eq_true_eq] at isMark
        rcases isMark with rfl | rfl <;> rfl
      exact forall_mem_of_within (within_double digit rfl rfl rfl mark) matched

theorem ne_nil_of_accepts {type : BareType} {t : Text} (accepted : type.accepts t = true) :
    t ≠ [] := by
  rintro rfl
  revert accepted
  cases type <;> decide

/-! ## The type of a bare value -/

/-- The type that a bare value shows. -/
def shownBy (t : Text) : BareType :=
  if t.any Char.isDigit then
    if t.any isExponentMark then .double
    else if t.contains '.' then .decimal
    else .integer
  else .boolean

theorem any_isDigit_of_digits {digits : Text} (inside : digits ∈ digitsPattern.language) :
    digits.any Char.isDigit = true := by
  obtain ⟨nonempty, allDigits⟩ := mem_language_many.1 inside
  obtain ⟨c, rest, rfl⟩ := List.exists_cons_of_ne_nil nonempty
  simp [allDigits c List.mem_cons_self]

/-- A number of any kind ends in digits. -/
theorem any_isDigit_of_accepts {type : BareType} {t : Text} (number : type ≠ .boolean)
    (accepted : type.accepts t = true) : t.any Char.isDigit = true := by
  have matched := accepts_iff.1 accepted
  cases type with
  | boolean => exact absurd rfl number
  | integer =>
      obtain ⟨_, _, digits, areDigits, rfl⟩ := mem_language_seq.1 matched
      simp [any_isDigit_of_digits areDigits]
  | decimal =>
      simp only [pattern, mem_language_all_cons, mem_language_all_nil] at matched
      obtain ⟨_, _, _, ⟨_, _, _, ⟨_, _, _, ⟨digits, areDigits, _, rfl, rfl⟩, rfl⟩, rfl⟩, rfl⟩ :=
        matched
      simp [any_isDigit_of_digits areDigits]
  | double =>
      simp only [pattern, mem_language_all_cons, mem_language_all_nil] at matched
      obtain ⟨_, _, _, ⟨_, _, _, ⟨_, _, _, ⟨_, _, _, ⟨digits, areDigits, _, rfl, rfl⟩, rfl⟩, rfl⟩,
        rfl⟩, rfl⟩ := matched
      simp [any_isDigit_of_digits areDigits]

theorem any_isExponentMark_of_double {t : Text} (accepted : accepts .double t = true) :
    t.any isExponentMark = true := by
  have matched := accepts_iff.1 accepted
  simp only [pattern, mem_language_all_cons, mem_language_one] at matched
  obtain ⟨_, _, _, ⟨_, _, _, ⟨_, ⟨mark, fits, rfl⟩, _, _, rfl⟩, rfl⟩, rfl⟩ := matched
  have isMark : isExponentMark mark = true := fits
  simp [isMark]

theorem contains_point_of_decimal {t : Text} (accepted : accepts .decimal t = true) :
    t.contains '.' = true := by
  have matched := accepts_iff.1 accepted
  simp only [pattern, mem_language_all_cons, mem_language_char] at matched
  obtain ⟨_, _, _, ⟨_, _, _, ⟨_, rfl, _, _, rfl⟩, rfl⟩, rfl⟩ := matched
  simp

/-- The type of a bare value can be told from the value alone. -/
theorem shownBy_of_accepts {type : BareType} {t : Text} (accepted : type.accepts t = true) :
    shownBy t = type := by
  have matched := accepts_iff.1 accepted
  cases type with
  | boolean =>
      rcases mem_language_alt.1 matched with isTrue | isFalse
      · rw [mem_language_word.1 isTrue]
        decide
      · rw [mem_language_word.1 isFalse]
        decide
  | integer =>
      have digit := any_isDigit_of_accepts (by decide) accepted
      have plain : ∀ c ∈ t, isExponentMark c = false ∧ c ≠ '.' :=
        forall_mem_of_within
          (within_integer
            (fun c isDigit => ⟨isExponentMark_of_isDigit isDigit, ne_of_isDigit isDigit rfl⟩)
            (by decide) (by decide))
          matched
      have noMark : t.any isExponentMark = false := by
        simpa using fun c member => (plain c member).1
      have noPoint : t.contains '.' = false := by
        simpa using fun member => (plain '.' member).2 rfl
      simp only [shownBy, digit, noMark, noPoint, if_true, Bool.false_eq_true, if_false]
  | decimal =>
      have digit := any_isDigit_of_accepts (by decide) accepted
      have point := contains_point_of_decimal accepted
      have plain : ∀ c ∈ t, isExponentMark c = false :=
        forall_mem_of_within
          (within_decimal (fun c isDigit => isExponentMark_of_isDigit isDigit) rfl rfl rfl) matched
      have noMark : t.any isExponentMark = false := by simpa using plain
      simp only [shownBy, digit, noMark, point, if_true, Bool.false_eq_true, if_false]
  | double =>
      have digit := any_isDigit_of_accepts (by decide) accepted
      have mark := any_isExponentMark_of_double accepted
      simp only [shownBy, digit, mark, if_true]

/-- No text is a bare value of two types. -/
theorem eq_of_accepts {a b : BareType} {t : Text} (first : a.accepts t = true)
    (second : b.accepts t = true) : a = b :=
  (shownBy_of_accepts first).symm.trans (shownBy_of_accepts second)

/-! ## Bare forms -/

/-- A bare form is a bare value of the type that it was made for. -/
theorem accepts_of_bareForm? {type : BareType} {value bare : Text}
    (found : type.bareForm? value = some bare) : type.accepts bare = true := by
  unfold bareForm? doubleForm? at found
  split at found
  · rename_i isDouble
    subst isDouble
    split at found
    · rename_i accepted
      exact Option.some.inj found ▸ accepted
    · split at found
      · rename_i accepted
        exact Option.some.inj found ▸ accepted
      · cases found
  · split at found
    · rename_i accepted
      exact Option.some.inj found ▸ accepted
    · cases found

/-- Only a double is ever changed. -/
theorem eq_of_bareForm? {type : BareType} {value bare : Text} (other : type ≠ .double)
    (found : type.bareForm? value = some bare) : bare = value := by
  rw [bareForm?, if_neg other] at found
  split at found
  · exact (Option.some.inj found).symm
  · cases found

end SparqlRequest.Lexical.BareType
