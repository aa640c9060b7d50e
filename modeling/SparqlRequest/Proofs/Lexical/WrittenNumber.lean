/-
# Proofs.Lexical.WrittenNumber -- numbers as they are written

A written number is an optional sign, digits before and behind an optional point, and an optional
exponent.  Digits may be missing before the point or behind it, but not on both sides, and an
exponent has some.  Its text is read in one way only (`WrittenNumber.text_injective`): each part
ends at a character that cannot belong to it.  So a text that is a number denotes one rational
number, the `value` of what is written.
-/
import Mathlib.Algebra.Field.Rat
import SparqlRequest.Number.Written
import SparqlRequest.Proofs.Lexical.BareType

set_option autoImplicit false

namespace SparqlRequest.Lexical

open BareType (isExponentMark)

/-! ## The parts of a number -/

inductive Sign where
  | absent
  | plus
  | minus
  deriving DecidableEq, Repr

namespace Sign

def text : Sign → Text
  | .absent => []
  | .plus => ['+']
  | .minus => ['-']

def factor : Sign → Int
  | .minus => -1
  | _ => 1

end Sign

def AllDigits (t : Text) : Prop := ∀ c ∈ t, c.isDigit = true

theorem allDigits_of_mem_none : ∀ digits ∈ (none : Option Text), AllDigits digits := by
  intro digits absent
  cases absent

theorem allDigits_of_mem_some {digits : Text} (allDigits : AllDigits digits) :
    ∀ found ∈ some digits, AllDigits found := by
  intro found same
  cases same
  exact allDigits

@[ext]
structure Exponent where
  mark : Char
  sign : Sign
  digits : Text
  isMark : isExponentMark mark = true
  allDigits : AllDigits digits
  nonempty : digits ≠ []

/-- A number as it is written; `fraction` holds the digits behind the point, where there is
one. -/
@[ext]
structure WrittenNumber where
  sign : Sign
  whole : Text
  fraction : Option Text
  exponent : Option Exponent
  wholeDigits : AllDigits whole
  fractionDigits : ∀ digits ∈ fraction, AllDigits digits
  nonempty : whole ++ fraction.getD [] ≠ []

namespace Exponent

def text (e : Exponent) : Text := e.mark :: (e.sign.text ++ e.digits)

def power (e : Exponent) : Int := e.sign.factor * (Number.digitsValue e.digits : Int)

end Exponent

namespace WrittenNumber

/-- The point and the digits behind it, where there is one. -/
def fractionText (fraction : Option Text) : Text := fraction.elim [] fun digits => '.' :: digits

def exponentText (exponent : Option Exponent) : Text := exponent.elim [] Exponent.text

@[simp] theorem fractionText_none : fractionText none = [] := rfl

@[simp] theorem fractionText_some (digits : Text) :
    fractionText (some digits) = '.' :: digits := rfl

@[simp] theorem exponentText_none : exponentText none = [] := rfl

@[simp] theorem exponentText_some (e : Exponent) : exponentText (some e) = e.text := rfl

def text (n : WrittenNumber) : Text :=
  n.sign.text ++ (n.whole ++ (fractionText n.fraction ++ exponentText n.exponent))

/-- The power of ten that the exponent stands for. -/
def power (n : WrittenNumber) : Int := n.exponent.elim 0 Exponent.power

def value (n : WrittenNumber) : ℚ :=
  n.sign.factor *
    (Number.digitsValue n.whole +
      Number.digitsValue (n.fraction.getD []) / 10 ^ (n.fraction.getD []).length) *
    10 ^ n.power

end WrittenNumber

/-! ## Reading the parts -/

/-- A run of characters of a class ends where a character stands that is not of the class. -/
theorem takeWhile_run {allowed : Char → Bool} {run rest : Text}
    (inside : ∀ c ∈ run, allowed c = true) (stops : ∀ c ∈ rest.head?, allowed c = false) :
    (run ++ rest).takeWhile allowed = run := by
  rw [List.takeWhile_append_of_pos inside]
  cases rest with
  | nil => rw [List.takeWhile_nil, List.append_nil]
  | cons c rest =>
      have outside : ¬ allowed c = true := by
        rw [stops c rfl]
        exact Bool.false_ne_true
      rw [List.takeWhile_cons_of_neg outside, List.append_nil]

/-- Two runs of a class that begin one text, each up to a character outside the class, are one
run. -/
theorem run_append_inj {allowed : Char → Bool} {a b u v : Text}
    (inside : ∀ c ∈ a, allowed c = true) (inside' : ∀ c ∈ b, allowed c = true)
    (stops : ∀ c ∈ u.head?, allowed c = false) (stops' : ∀ c ∈ v.head?, allowed c = false)
    (same : a ++ u = b ++ v) : a = b ∧ u = v := by
  have runs : a = b := by
    calc a = (a ++ u).takeWhile allowed := (takeWhile_run inside stops).symm
      _ = (b ++ v).takeWhile allowed := by rw [same]
      _ = b := takeWhile_run inside' stops'
  subst runs
  exact ⟨rfl, List.append_cancel_left same⟩

def isSign (c : Char) : Bool := c = '+' || c = '-'

theorem isSign_of_mem_text {sign : Sign} : ∀ c ∈ sign.text, isSign c = true := by
  cases sign <;> simp [Sign.text, isSign]

theorem Sign.text_injective {a b : Sign} (same : a.text = b.text) : a = b := by
  cases a <;> cases b <;> simp_all [Sign.text]

theorem isSign_of_isDigit {c : Char} (digit : c.isDigit = true) : isSign c = false := by
  simp [isSign, BareType.ne_of_isDigit digit]

theorem isDigit_of_isExponentMark {c : Char} (mark : isExponentMark c = true) :
    c.isDigit = false := by
  simp only [isExponentMark, Bool.or_eq_true, decide_eq_true_eq] at mark
  rcases mark with rfl | rfl <;> rfl

theorem isSign_head_of_digits {digits rest : Text} (allDigits : AllDigits digits)
    (nonempty : digits ≠ []) : ∀ c ∈ (digits ++ rest).head?, isSign c = false := by
  obtain ⟨d, more, rfl⟩ := List.exists_cons_of_ne_nil nonempty
  intro c atHead
  cases atHead
  exact isSign_of_isDigit (allDigits d List.mem_cons_self)

theorem Exponent.text_injective {a b : Exponent} (same : a.text = b.text) : a = b := by
  obtain ⟨marks, later⟩ := List.cons.inj same
  have stops : ∀ e : Exponent, ∀ c ∈ e.digits.head?, isSign c = false := by
    intro e
    have head : ∀ c ∈ (e.digits ++ []).head?, isSign c = false :=
      isSign_head_of_digits e.allDigits e.nonempty
    rwa [List.append_nil] at head
  obtain ⟨signs, digits⟩ :=
    run_append_inj isSign_of_mem_text isSign_of_mem_text (stops a) (stops b) later
  exact Exponent.ext marks (Sign.text_injective signs) digits

namespace WrittenNumber

theorem exponentText_head (exponent : Option Exponent) :
    ∀ c ∈ (exponentText exponent).head?, isExponentMark c = true := by
  intro c atHead
  cases exponent with
  | none => cases atHead
  | some e =>
      cases atHead
      exact e.isMark

theorem exponentText_injective {a b : Option Exponent} (same : exponentText a = exponentText b) :
    a = b := by
  cases a with
  | none =>
      cases b with
      | none => rfl
      | some e => cases same
  | some e =>
      cases b with
      | none => cases same
      | some e' => exact congrArg some (Exponent.text_injective same)

theorem fractionText_append_inj {a b : Option Text} {e f : Option Exponent}
    (first : ∀ digits ∈ a, AllDigits digits) (second : ∀ digits ∈ b, AllDigits digits)
    (same : fractionText a ++ exponentText e = fractionText b ++ exponentText f) :
    a = b ∧ e = f := by
  have unpointed : ∀ (exponent : Option Exponent) (rest : Text),
      exponentText exponent ≠ '.' :: rest := by
    intro exponent rest pointed
    have mark := exponentText_head exponent '.' (by rw [pointed]; rfl)
    exact absurd mark (by decide)
  have stops : ∀ exponent : Option Exponent, ∀ c ∈ (exponentText exponent).head?,
      c.isDigit = false :=
    fun exponent c atHead => isDigit_of_isExponentMark (exponentText_head exponent c atHead)
  cases a with
  | none =>
      cases b with
      | none => exact ⟨rfl, exponentText_injective same⟩
      | some digits => exact absurd same (unpointed e _)
  | some digits =>
      cases b with
      | none => exact absurd same.symm (unpointed f _)
      | some digits' =>
          obtain ⟨rfl, later⟩ := run_append_inj (first digits rfl) (second digits' rfl) (stops e)
            (stops f) (List.cons.inj same).2
          exact ⟨rfl, exponentText_injective later⟩

theorem unsigned_head (n : WrittenNumber) :
    ∀ c ∈ (n.whole ++ (fractionText n.fraction ++ exponentText n.exponent)).head?,
      isSign c = false := by
  by_cases bare : n.whole = []
  · cases pointed : n.fraction with
    | none =>
        have nothing := n.nonempty
        rw [bare, pointed] at nothing
        exact absurd rfl nothing
    | some digits =>
        intro c atHead
        rw [bare] at atHead
        cases atHead
        rfl
  · exact isSign_head_of_digits n.wholeDigits bare

theorem fraction_head (fraction : Option Text) (exponent : Option Exponent) :
    ∀ c ∈ (fractionText fraction ++ exponentText exponent).head?, c.isDigit = false := by
  intro c atHead
  cases fraction with
  | none => exact isDigit_of_isExponentMark (exponentText_head exponent c atHead)
  | some digits =>
      cases atHead
      rfl

/-- **A text is a written number in one way at most.** -/
theorem text_injective {n m : WrittenNumber} (same : n.text = m.text) : n = m := by
  obtain ⟨signs, unsigned⟩ := run_append_inj isSign_of_mem_text isSign_of_mem_text
    n.unsigned_head m.unsigned_head same
  obtain ⟨wholes, later⟩ := run_append_inj n.wholeDigits m.wholeDigits
    (fraction_head n.fraction n.exponent) (fraction_head m.fraction m.exponent) unsigned
  obtain ⟨fractions, exponents⟩ :=
    fractionText_append_inj n.fractionDigits m.fractionDigits later
  exact WrittenNumber.ext (Sign.text_injective signs) wholes fractions exponents

/-- A text is written as a number in one way at most. -/
theorem text_eq_iff {n m : WrittenNumber} : m.text = n.text ↔ m = n :=
  ⟨text_injective, fun same => congrArg text same⟩

/-- The text is a written number, and this is what it denotes. -/
def Denotes (t : Text) (q : ℚ) : Prop := ∃ n : WrittenNumber, n.text = t ∧ n.value = q

/-- A written number denotes its value and nothing else. -/
theorem denotes_text_iff {n : WrittenNumber} {q : ℚ} : Denotes n.text q ↔ q = n.value := by
  constructor
  · rintro ⟨m, same, rfl⟩
    rw [text_injective same]
  · rintro rfl
    exact ⟨n, rfl, rfl⟩

/-! ## Numbers with an exponent -/

/-- The number without its exponent. -/
def mantissa (n : WrittenNumber) : WrittenNumber := { n with exponent := none }

theorem text_eq_mantissa (n : WrittenNumber) :
    n.text = n.mantissa.text ++ exponentText n.exponent := by
  simp [text, mantissa]

/-- The exponent that changes nothing. -/
def zeroExponent : Exponent where
  mark := 'e'
  sign := .absent
  digits := ['0']
  isMark := rfl
  allDigits := List.forall_mem_singleton.2 rfl
  nonempty := List.cons_ne_nil _ _

/-- The number with the exponent `e0` where it has none. -/
def completed (n : WrittenNumber) : WrittenNumber :=
  { n with exponent := some (n.exponent.getD zeroExponent) }

theorem completed_of_some {n : WrittenNumber} (complete : n.exponent.isSome = true) :
    n.completed = n := by
  obtain ⟨exponent, found⟩ := Option.isSome_iff_exists.1 complete
  exact WrittenNumber.ext rfl rfl rfl (by rw [completed, found, Option.getD_some])

theorem text_completed_of_none {n : WrittenNumber} (lacking : n.exponent = none) :
    n.completed.text = n.text ++ ['e', '0'] := by
  simp [text, completed, lacking, zeroExponent, Exponent.text, Sign.text]

theorem power_completed (n : WrittenNumber) : n.completed.power = n.power := by
  cases lacking : n.exponent with
  | none => simp [power, completed, lacking, zeroExponent, Exponent.power, Number.digitsValue]
  | some exponent => simp [power, completed, lacking]

/-- The exponent that is added does not change the number. -/
theorem value_completed (n : WrittenNumber) : n.completed.value = n.value := by
  rw [value, value, power_completed]
  rfl

/-- The two are one number: the sign, the digits before and behind the point and the power of ten
agree, and so does what they denote. -/
structure SameNumber (n m : WrittenNumber) : Prop where
  sign : n.sign = m.sign
  whole : n.whole = m.whole
  fraction : n.fraction = m.fraction
  power : n.power = m.power
  value : n.value = m.value

theorem SameNumber.refl (n : WrittenNumber) : SameNumber n n := ⟨rfl, rfl, rfl, rfl, rfl⟩

theorem sameNumber_completed (n : WrittenNumber) : SameNumber n n.completed :=
  ⟨rfl, rfl, rfl, (power_completed n).symm, (value_completed n).symm⟩

/-! ## The mark of an exponent -/

theorem unmarked_sign {sign : Sign} : ∀ c ∈ sign.text, isExponentMark c = false := by
  cases sign <;> simp [Sign.text, isExponentMark]

theorem unmarked_digits {digits : Text} (allDigits : AllDigits digits) :
    ∀ c ∈ digits, isExponentMark c = false :=
  fun c member => BareType.isExponentMark_of_isDigit (allDigits c member)

/-- The mark of the exponent is the last mark in the text. -/
theorem text_mantissa_of_text_eq {n : WrittenNumber} {t tail : Text}
    (complete : n.exponent.isSome = true) (unmarked : ∀ c ∈ tail, isExponentMark c = false)
    (same : n.text = t ++ 'e' :: tail) : n.mantissa.text = t := by
  obtain ⟨exponent, found⟩ := Option.isSome_iff_exists.1 complete
  rw [text_eq_mantissa, found, exponentText_some, Exponent.text] at same
  have unmarkedBehind : ∀ c ∈ exponent.sign.text ++ exponent.digits, isExponentMark c = false :=
    List.forall_mem_append.2 ⟨unmarked_sign, unmarked_digits exponent.allDigits⟩
  rcases List.append_eq_append_iff.1 same with ⟨more, split, rest⟩ | ⟨more, split, rest⟩
  · cases more with
    | nil => exact (split.trans (List.append_nil _)).symm
    | cons c more =>
        -- The mark before `tail` would stand behind the mark of the exponent.
        have member : 'e' ∈ exponent.sign.text ++ exponent.digits := by
          rw [(List.cons.inj rest).2]
          exact List.mem_append_right more List.mem_cons_self
        cases unmarkedBehind 'e' member
  · cases more with
    | nil => exact split.trans (List.append_nil t)
    | cons c more =>
        -- The mark of the exponent would stand behind the mark before `tail`.
        have member : exponent.mark ∈ tail := by
          rw [(List.cons.inj rest).2]
          exact List.mem_append_right more List.mem_cons_self
        have noMark := unmarked exponent.mark member
        rw [exponent.isMark] at noMark
        cases noMark

end WrittenNumber

end SparqlRequest.Lexical
