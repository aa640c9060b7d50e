/-
# Proofs.Lexical.BareForm -- bare forms keep the number

The patterns of the three numeric types cut the written numbers into kinds: integers have neither
a point nor an exponent, decimals have digits behind a point and no exponent, doubles have an
exponent (`accepts_integer_iff`, `accepts_decimal_iff`, `accepts_double_iff`).  The double form of
a text exists exactly when the text is a written number of any kind, and then it is that number
with the exponent `e0` where it has none (`doubleForm?_eq_some_iff`), so the number that is
denoted stays what it is.
-/
import SparqlRequest.Proofs.Lexical.WrittenNumber

set_option autoImplicit false

namespace SparqlRequest.Lexical

open Pattern

/-! ## The parts of the patterns -/

namespace BareType

theorem mem_language_sign {t : Text} : t ∈ Pattern.sign.language ↔ ∃ sign : Sign, sign.text = t := by
  rw [Pattern.sign, mem_language_optional, mem_language_one]
  constructor
  · rintro (⟨c, isSign, rfl⟩ | rfl)
    · simp only [Bool.or_eq_true, decide_eq_true_eq] at isSign
      rcases isSign with rfl | rfl
      · exact ⟨.plus, rfl⟩
      · exact ⟨.minus, rfl⟩
    · exact ⟨.absent, rfl⟩
  · rintro ⟨sign, rfl⟩
    cases sign with
    | absent => exact Or.inr rfl
    | plus => exact Or.inl ⟨'+', rfl, rfl⟩
    | minus => exact Or.inl ⟨'-', rfl, rfl⟩

theorem mem_digitsPattern {t : Text} : t ∈ digitsPattern.language ↔ t ≠ [] ∧ AllDigits t :=
  mem_language_many

/-- The digits before and behind the point of a double. -/
def mantissaPattern : Pattern :=
  .any
    [.all [digitsPattern, .char '.', .run Char.isDigit],
      .seq (.char '.') digitsPattern,
      digitsPattern]

theorem mem_mantissaPattern {t : Text} :
    t ∈ mantissaPattern.language ↔
      ∃ (whole : Text) (fraction : Option Text), AllDigits whole ∧
        (∀ digits ∈ fraction, AllDigits digits) ∧ whole ++ fraction.getD [] ≠ [] ∧
        whole ++ WrittenNumber.fractionText fraction = t := by
  have unfolded : mantissaPattern =
      .alt (.all [digitsPattern, .char '.', .run Char.isDigit])
        (.alt (.seq (.char '.') digitsPattern) digitsPattern) := rfl
  rw [unfolded, mem_language_alt, mem_language_alt]
  simp only [mem_language_all_cons, mem_language_all_nil, mem_language_seq, mem_language_char,
    mem_language_run, mem_digitsPattern, exists_eq_left, List.append_nil, exists_eq_right,
    List.cons_append, List.nil_append]
  constructor
  · rintro (⟨whole, ⟨nonempty, digits⟩, _, ⟨fraction, digits', rfl⟩, rfl⟩ |
      ⟨fraction, ⟨nonempty, digits'⟩, rfl⟩ | ⟨nonempty, digits⟩)
    · have some' : whole ++ fraction ≠ [] := List.append_ne_nil_of_left_ne_nil nonempty _
      exact ⟨whole, some fraction, digits, allDigits_of_mem_some digits', some', rfl⟩
    · exact ⟨[], some fraction, List.forall_mem_nil _, allDigits_of_mem_some digits', nonempty, rfl⟩
    · have some' : t ++ [] ≠ [] := by rwa [List.append_nil]
      exact ⟨t, none, digits, allDigits_of_mem_none, some', List.append_nil t⟩
  · rintro ⟨whole, fraction, digits, digits', nonempty, rfl⟩
    cases fraction with
    | none =>
        rw [Option.getD_none, List.append_nil] at nonempty
        rw [WrittenNumber.fractionText_none, List.append_nil]
        exact Or.inr (Or.inr ⟨nonempty, digits⟩)
    | some fraction =>
        have digits'' := digits' fraction rfl
        by_cases bare : whole = []
        · subst bare
          exact Or.inr (Or.inl ⟨fraction, ⟨nonempty, digits''⟩, rfl⟩)
        · exact Or.inl ⟨whole, ⟨bare, digits⟩, _, ⟨fraction, digits'', rfl⟩, rfl⟩

def exponentPattern : Pattern := .all [.one isExponentMark, .sign, digitsPattern]

theorem mem_exponentPattern {t : Text} :
    t ∈ exponentPattern.language ↔ ∃ e : Exponent, e.text = t := by
  rw [exponentPattern]
  simp only [mem_language_all_cons, mem_language_all_nil, mem_language_one, mem_language_sign,
    mem_digitsPattern, exists_eq_left, List.append_nil, exists_eq_right, exists_exists_eq_and]
  constructor
  · rintro ⟨_, ⟨mark, isMark, rfl⟩, _, ⟨sign, digits, ⟨nonempty, allDigits⟩, rfl⟩, rfl⟩
    exact ⟨⟨mark, sign, digits, isMark, allDigits, nonempty⟩, rfl⟩
  · rintro ⟨e, rfl⟩
    exact ⟨[e.mark], ⟨_, e.isMark, rfl⟩, _, ⟨e.sign, e.digits, ⟨e.nonempty, e.allDigits⟩, rfl⟩, rfl⟩

/-! ## The numeric types -/

/-- An integer is a written number with neither point nor exponent. -/
theorem accepts_integer_iff {t : Text} :
    accepts .integer t = true ↔
      ∃ n : WrittenNumber, n.text = t ∧ n.fraction = none ∧ n.exponent = none := by
  rw [accepts_iff, pattern, mem_language_seq]
  simp only [mem_language_sign, mem_digitsPattern, exists_exists_eq_and]
  constructor
  · rintro ⟨sign, whole, ⟨nonempty, digits⟩, rfl⟩
    have some' : whole ++ [] ≠ [] := by rwa [List.append_nil]
    refine ⟨⟨sign, whole, none, none, digits, allDigits_of_mem_none, some'⟩, ?_, rfl, rfl⟩
    simp [WrittenNumber.text]
  · rintro ⟨n, rfl, noPoint, noExponent⟩
    have nonempty := n.nonempty
    rw [noPoint, Option.getD_none, List.append_nil] at nonempty
    refine ⟨n.sign, n.whole, ⟨nonempty, n.wholeDigits⟩, ?_⟩
    simp [WrittenNumber.text, noPoint, noExponent]

/-- A decimal has digits behind its point and no exponent. -/
theorem accepts_decimal_iff {t : Text} :
    accepts .decimal t = true ↔
      ∃ n : WrittenNumber, n.text = t ∧ (∃ digits, n.fraction = some digits ∧ digits ≠ []) ∧
        n.exponent = none := by
  rw [accepts_iff, pattern]
  simp only [mem_language_all_cons, mem_language_all_nil, mem_language_char, mem_language_run,
    mem_language_sign, mem_digitsPattern, exists_eq_left, List.append_nil, exists_eq_right,
    exists_exists_eq_and, List.cons_append, List.nil_append]
  constructor
  · rintro ⟨sign, _, ⟨whole, digits, _, ⟨fraction, ⟨nonempty, digits'⟩, rfl⟩, rfl⟩, rfl⟩
    have some' : whole ++ fraction ≠ [] := List.append_ne_nil_of_right_ne_nil _ nonempty
    refine ⟨⟨sign, whole, some fraction, none, digits, allDigits_of_mem_some digits', some'⟩, ?_,
      ⟨fraction, rfl, nonempty⟩, rfl⟩
    simp [WrittenNumber.text]
  · rintro ⟨n, rfl, ⟨fraction, pointed, nonempty⟩, noExponent⟩
    have digits := n.fractionDigits fraction pointed
    refine ⟨n.sign, _, ⟨n.whole, n.wholeDigits, _, ⟨fraction, ⟨nonempty, digits⟩, rfl⟩, rfl⟩, ?_⟩
    simp [WrittenNumber.text, pointed, noExponent]

/-- A double is a written number with an exponent. -/
theorem accepts_double_iff {t : Text} :
    accepts .double t = true ↔ ∃ n : WrittenNumber, n.text = t ∧ n.exponent.isSome = true := by
  have unfolded : pattern .double =
      .seq .sign (.seq mantissaPattern exponentPattern) := rfl
  rw [accepts_iff, unfolded]
  simp only [mem_language_seq, mem_language_sign, mem_mantissaPattern, mem_exponentPattern,
    exists_exists_eq_and]
  constructor
  · rintro ⟨sign, _, ⟨_, ⟨whole, fraction, digits, digits', nonempty, rfl⟩, exponent, rfl⟩, rfl⟩
    refine ⟨⟨sign, whole, fraction, some exponent, digits, digits', nonempty⟩, ?_, rfl⟩
    simp [WrittenNumber.text]
  · rintro ⟨n, rfl, hasExponent⟩
    obtain ⟨exponent, found⟩ := Option.isSome_iff_exists.1 hasExponent
    refine ⟨n.sign, _, ⟨_, ⟨n.whole, n.fraction, n.wholeDigits, n.fractionDigits, n.nonempty, rfl⟩,
      exponent, rfl⟩, ?_⟩
    simp [WrittenNumber.text, found]

/-! ## Double forms -/

/-- The double form is the number with its exponent, and every written number has one. -/
theorem doubleForm?_eq_some_iff {t bare : Text} :
    doubleForm? t = some bare ↔ ∃ n : WrittenNumber, n.text = t ∧ n.completed.text = bare := by
  by_cases accepted : accepts .double t = true
  · obtain ⟨n, rfl, complete⟩ := accepts_double_iff.1 accepted
    rw [doubleForm?, if_pos accepted, Option.some.injEq]
    constructor
    · rintro rfl
      exact ⟨n, rfl, by rw [WrittenNumber.completed_of_some complete]⟩
    · rintro ⟨m, same, rfl⟩
      rw [WrittenNumber.text_injective same, WrittenNumber.completed_of_some complete]
  · rw [doubleForm?, if_neg accepted]
    constructor
    · intro found
      split at found
      · rename_i coerced
        cases found
        obtain ⟨m, same, complete⟩ := accepts_double_iff.1 coerced
        have zero : ∀ c ∈ ['0'], isExponentMark c = false := List.forall_mem_singleton.2 rfl
        have mantissa := WrittenNumber.text_mantissa_of_text_eq complete zero same
        refine ⟨m.mantissa, mantissa, ?_⟩
        rw [WrittenNumber.text_completed_of_none rfl, mantissa]
      · cases found
    · rintro ⟨n, rfl, rfl⟩
      have lacking : n.exponent = none := by
        by_contra complete
        exact accepted (accepts_double_iff.2 ⟨n, rfl, Option.isSome_iff_ne_none.2 complete⟩)
      have coerced : accepts .double (n.text ++ ['e', '0']) = true :=
        accepts_double_iff.2 ⟨n.completed, WrittenNumber.text_completed_of_none lacking, rfl⟩
      rw [if_pos coerced, WrittenNumber.text_completed_of_none lacking]

theorem isSome_doubleForm?_iff {t : Text} :
    (doubleForm? t).isSome = true ↔ ∃ n : WrittenNumber, n.text = t := by
  rw [Option.isSome_iff_exists]
  constructor
  · rintro ⟨bare, found⟩
    obtain ⟨n, same, _⟩ := doubleForm?_eq_some_iff.1 found
    exact ⟨n, same⟩
  · rintro ⟨n, same⟩
    exact ⟨n.completed.text, doubleForm?_eq_some_iff.2 ⟨n, same, rfl⟩⟩

/-! ## Bare forms -/

/-- A bare value is its own bare form. -/
theorem bareForm?_of_accepts {type : BareType} {t : Text} (accepted : type.accepts t = true) :
    type.bareForm? t = some t := by
  by_cases isDouble : type = .double
  · subst isDouble
    rw [bareForm?, if_pos rfl, doubleForm?, if_pos accepted]
  · rw [bareForm?, if_neg isDouble, if_pos accepted]

/-- Nothing of the value is lost in its bare form. -/
theorem prefix_of_bareForm? {type : BareType} {value bare : Text}
    (found : type.bareForm? value = some bare) : value <+: bare := by
  by_cases isDouble : type = .double
  · rw [bareForm?, if_pos isDouble] at found
    unfold doubleForm? at found
    split at found
    · cases found
      exact List.prefix_rfl
    · split at found
      · cases found
        exact List.prefix_append value ['e', '0']
      · cases found
  · rw [eq_of_bareForm? isDouble found]

/-- A value with a bare form passes as a string value. -/
theorem nul_not_mem_of_bareForm? {type : BareType} {value bare : Text}
    (found : type.bareForm? value = some bare) : '\x00' ∉ value := by
  intro member
  have isBare := isBareChar_of_accepts (accepts_of_bareForm? found) '\x00'
    ((prefix_of_bareForm? found).subset member)
  exact absurd isBare (by decide)

/-- A bare value of a numeric type is a written number. -/
theorem exists_writtenNumber {type : BareType} {t : Text} (number : type ≠ .boolean)
    (accepted : type.accepts t = true) : ∃ n : WrittenNumber, n.text = t := by
  cases type with
  | boolean => exact absurd rfl number
  | integer =>
      obtain ⟨n, same, _⟩ := accepts_integer_iff.1 accepted
      exact ⟨n, same⟩
  | decimal =>
      obtain ⟨n, same, _⟩ := accepts_decimal_iff.1 accepted
      exact ⟨n, same⟩
  | double =>
      obtain ⟨n, same, _⟩ := accepts_double_iff.1 accepted
      exact ⟨n, same⟩

/-- The bare form of a number is that number. -/
theorem bareForm?_number {type : BareType} {value bare : Text} (number : type ≠ .boolean)
    (found : type.bareForm? value = some bare) :
    ∃ n m : WrittenNumber, n.text = value ∧ m.text = bare ∧ WrittenNumber.SameNumber n m ∧
      bare = if type = .double ∧ n.exponent.isNone = true then value ++ ['e', '0'] else value := by
  by_cases isDouble : type = .double
  · rw [bareForm?, if_pos isDouble] at found
    obtain ⟨n, rfl, rfl⟩ := doubleForm?_eq_some_iff.1 found
    refine ⟨n, n.completed, rfl, rfl, n.sameNumber_completed, ?_⟩
    cases lacking : n.exponent with
    | none =>
        rw [if_pos ⟨isDouble, rfl⟩, WrittenNumber.text_completed_of_none lacking]
    | some exponent =>
        have complete : n.exponent.isSome = true := by rw [lacking, Option.isSome_some]
        have unchanged : ¬ (type = .double ∧ (some exponent).isNone = true) :=
          fun both => Bool.false_ne_true both.2
        rw [if_neg unchanged, WrittenNumber.completed_of_some complete]
  · obtain rfl := eq_of_bareForm? isDouble found
    obtain ⟨n, same⟩ := exists_writtenNumber number (accepts_of_bareForm? found)
    exact ⟨n, n, same, same, .refl n, (if_neg fun both => isDouble both.1).symm⟩

/-- **Bare forms are exact and unambiguous.**  No text is a bare value of two types, and one that
is a bare value is its own bare form; the bare form of a value is a bare value of its own type
alone, and its own bare form; value and bare form are written numbers, each in one way, and the
same number; only a double without an exponent is changed.  The bare form of a double is its
double form, which a text has exactly when it is a written number, so integers and decimals have
one. -/
theorem bareForm?_exact (value : Text) :
    (∀ type other : BareType, type.accepts value = true → other.accepts value = true →
        type = other) ∧
      (∀ type : BareType, type.accepts value = true → type.bareForm? value = some value) ∧
      (∀ (type : BareType) (bare : Text), type.bareForm? value = some bare →
        (∀ other : BareType, other.accepts bare = true ↔ other = type) ∧
          type.bareForm? bare = some bare ∧
          (type = .boolean → bare = value) ∧
          (type ≠ .boolean → ∃ n m : WrittenNumber,
            (∀ k : WrittenNumber, k.text = value ↔ k = n) ∧
              (∀ k : WrittenNumber, k.text = bare ↔ k = m) ∧ WrittenNumber.SameNumber n m ∧
              bare = if type = .double ∧ n.exponent.isNone = true then value ++ ['e', '0']
                else value)) ∧
      BareType.double.bareForm? value = doubleForm? value ∧
      ((doubleForm? value).isSome = true ↔ ∃ n : WrittenNumber, n.text = value) ∧
      (∀ type : BareType, type = .integer ∨ type = .decimal → type.accepts value = true →
        (doubleForm? value).isSome = true) := by
  refine ⟨?_, ?_, ?_, if_pos rfl, isSome_doubleForm?_iff, ?_⟩
  · exact fun type other first second => eq_of_accepts first second
  · exact fun type accepted => bareForm?_of_accepts accepted
  · intro type bare found
    have accepted := accepts_of_bareForm? found
    refine ⟨?_, bareForm?_of_accepts accepted, ?_, ?_⟩
    · intro other
      constructor
      · exact fun alsoAccepted => eq_of_accepts alsoAccepted accepted
      · rintro rfl
        exact accepted
    · rintro rfl
      exact eq_of_bareForm? (by decide) found
    · intro number
      obtain ⟨n, m, rfl, rfl, same, changed⟩ := bareForm?_number number found
      exact ⟨n, m, fun _ => WrittenNumber.text_eq_iff, fun _ => WrittenNumber.text_eq_iff, same,
        changed⟩
  · intro type kind accepted
    have number : type ≠ .boolean := by
      rintro rfl
      rcases kind with kind | kind <;> cases kind
    exact isSome_doubleForm?_iff.2 (exists_writtenNumber number accepted)

example : doubleForm? "+.5".toList = some "+.5e0".toList ∧ doubleForm? "1e".toList = none := by
  decide

end BareType

end SparqlRequest.Lexical
