/-
# Proofs.Number.Written -- what is written for a number denotes it

Integers and decimals in full are written numbers.  The text of an integer denotes that integer
(`WrittenNumber.ofInt`).  A decimal in full denotes the decimal: digits stand before the point,
digits stand behind it where there is one, and there is no exponent (`Decimal.InFull`).  A finite
double is written as such a decimal (`Binary64.exists_inFull_of_finite`).
-/
import Mathlib.Algebra.Field.Basic
import SparqlRequest.Proofs.Lexical.WrittenNumber

set_option autoImplicit false

namespace SparqlRequest

open Lexical

/-! ## Digits -/

namespace Number

theorem allDigits_ofNat (n : Nat) : AllDigits (ofNat n) :=
  fun _ member => Nat.isDigit_of_mem_toDigits (by decide) (by decide) member

theorem ofNat_ne_nil (n : Nat) : ofNat n ≠ [] := Nat.toDigits_ne_nil

/-- The digits of a number are read back as the number. -/
theorem digitsValue_ofNat (n : Nat) : digitsValue (ofNat n) = n := Nat.ofDigitChars_ten_toDigits

theorem digitsValue_nil : digitsValue [] = 0 := rfl

/-- Digits in front count by the number of digits behind them. -/
theorem digitsValue_append (a b : Text) :
    digitsValue (a ++ b) = 10 ^ b.length * digitsValue a + digitsValue b := by
  calc digitsValue (a ++ b) = Nat.ofDigitChars 10 b (digitsValue a) := Nat.ofDigitChars_append 0
    _ = 10 ^ b.length * digitsValue a + digitsValue b := Nat.ofDigitChars_eq_ofDigitChars_zero

theorem digitsValue_zeros (count : Nat) : digitsValue (List.replicate count '0') = 0 := by
  have shifted : digitsValue (List.replicate count '0') = 10 ^ count * 0 :=
    Nat.ofDigitChars_replicate_zero
  rw [shifted, Nat.mul_zero]

theorem allDigits_zeros (count : Nat) : AllDigits (List.replicate count '0') := by
  intro c member
  rw [List.eq_of_mem_replicate member]
  rfl

end Number

/-! ## Integers -/

namespace Lexical

namespace Sign

def ofNegative (negative : Bool) : Sign := if negative then .minus else .absent

theorem text_ofNegative (negative : Bool) : (ofNegative negative).text = Number.sign negative := by
  cases negative <;> rfl

theorem factor_mul_natAbs (i : Int) : (ofNegative (i < 0)).factor * (i.natAbs : Int) = i := by
  by_cases negative : i < 0
  · simp only [ofNegative, negative, decide_true, if_true, factor]
    omega
  · simp only [ofNegative, negative, decide_false, Bool.false_eq_true, if_false, factor]
    omega

end Sign

namespace WrittenNumber

theorem value_of_exponent_none {n : WrittenNumber} (lacking : n.exponent = none) :
    n.value = n.sign.factor *
      (Number.digitsValue n.whole +
        Number.digitsValue (n.fraction.getD []) / 10 ^ (n.fraction.getD []).length) := by
  rw [value, power, lacking, Option.elim_none, zpow_zero, mul_one]

def ofInt (i : Int) : WrittenNumber where
  sign := Sign.ofNegative (i < 0)
  whole := Number.ofNat i.natAbs
  fraction := none
  exponent := none
  wholeDigits := Number.allDigits_ofNat i.natAbs
  fractionDigits := allDigits_of_mem_none
  nonempty := List.append_ne_nil_of_left_ne_nil (Number.ofNat_ne_nil i.natAbs) []

theorem text_ofInt (i : Int) : (ofInt i).text = Number.ofInt i := by
  have parts : (ofInt i).text = Number.sign (i < 0) ++ Number.ofNat i.natAbs := by
    simp [text, ofInt, Sign.text_ofNegative]
  rw [parts]
  cases i with
  | ofNat n =>
      have nonneg : ¬ Int.ofNat n < 0 := Int.not_lt.2 (Int.natCast_nonneg n)
      rw [decide_eq_false nonneg]
      rfl
  | negSucc n =>
      rw [decide_eq_true (Int.negSucc_lt_zero n)]
      rfl

/-- An integer is written as itself. -/
theorem value_ofInt (i : Int) : (ofInt i).value = i := by
  have whole : (ofInt i).value = ((Sign.ofNegative (i < 0)).factor * (i.natAbs : Int) : Int) := by
    rw [value_of_exponent_none rfl]
    simp [ofInt, Number.digitsValue_nil, Number.digitsValue_ofNat]
  rw [whole, Sign.factor_mul_natAbs]

end WrittenNumber

end Lexical

/-! ## Decimals in full -/

namespace Decimal

def value (d : Decimal) : ℚ := d.digits * 10 ^ d.exponent

theorem value_of_nonneg {d : Decimal} (nonneg : 0 ≤ d.exponent) :
    d.value = d.digits * 10 ^ d.exponent.toNat := by
  rw [value, ← zpow_natCast, Int.toNat_of_nonneg nonneg]

theorem value_of_neg {d : Decimal} (neg : d.exponent < 0) :
    d.value = d.digits / 10 ^ (-d.exponent).toNat := by
  have places : ((-d.exponent).toNat : Int) = -d.exponent := by omega
  rw [value, ← zpow_natCast, places, zpow_neg, div_inv_eq_mul]

/-- The number is the decimal in full, behind a sign: digits stand before the point, digits stand
behind it where there is one, and there is no exponent. -/
structure InFull (sign : Sign) (d : Decimal) (n : WrittenNumber) : Prop where
  text : n.text = sign.text ++ d.positional []
  signed : n.sign = sign
  whole : n.whole ≠ []
  fraction : ∀ digits ∈ n.fraction, digits ≠ []
  exponent : n.exponent = none
  value : n.value = sign.factor * d.value

/-- The digits, with as many zeros before them as a point `places` from the end takes. -/
def padded (d : Decimal) (places : Nat) : Text :=
  List.replicate (places + 1 - (Number.ofNat d.digits).length) '0' ++ Number.ofNat d.digits

theorem lt_length_padded (d : Decimal) (places : Nat) : places < (d.padded places).length := by
  simp only [padded, List.length_append, List.length_replicate]
  omega

theorem allDigits_padded (d : Decimal) (places : Nat) : AllDigits (d.padded places) :=
  List.forall_mem_append.2 ⟨Number.allDigits_zeros _, Number.allDigits_ofNat d.digits⟩

/-- Zeros in front of the digits do not change what they denote. -/
theorem digitsValue_padded (d : Decimal) (places : Nat) :
    Number.digitsValue (d.padded places) = d.digits := by
  rw [padded, Number.digitsValue_append, Number.digitsValue_zeros, Number.digitsValue_ofNat,
    Nat.mul_zero, Nat.zero_add]

/-- Where the exponent is negative, a point cuts the digits in two. -/
theorem exists_cut_of_neg {d : Decimal} (neg : d.exponent < 0) :
    ∃ whole fraction : Text, whole ++ fraction = d.padded (-d.exponent).toNat ∧ whole ≠ [] ∧
      fraction.length = (-d.exponent).toNat ∧ d.positional [] = whole ++ '.' :: fraction := by
  have pointed : ¬ 0 ≤ d.exponent := by omega
  simp only [positional, if_neg pointed]
  generalize (-d.exponent).toNat = places
  have room := d.lt_length_padded places
  refine ⟨(d.padded places).take ((d.padded places).length - places),
    (d.padded places).drop ((d.padded places).length - places),
    List.take_append_drop _ _, ?_, ?_, ?_⟩
  · apply List.ne_nil_of_length_pos
    rw [List.length_take]
    omega
  · rw [List.length_drop]
    omega
  · by_cases inside : places < (Number.ofNat d.digits).length
    · have unpadded : d.padded places = Number.ofNat d.digits := by
        rw [padded, Nat.sub_eq_zero_of_le inside, List.replicate_zero, List.nil_append]
      rw [if_pos inside, unpadded]
    · have one : (d.padded places).length - places = 1 := by
        simp only [padded, List.length_append, List.length_replicate]
        omega
      have zeros : places + 1 - (Number.ofNat d.digits).length =
          places - (Number.ofNat d.digits).length + 1 := by omega
      rw [if_neg inside, one, padded, zeros, List.replicate_succ]
      rfl

/-- A whole number is written out in full, with its zeros. -/
theorem exists_inFull_of_nonneg (sign : Sign) {d : Decimal} (nonneg : 0 ≤ d.exponent) :
    ∃ n : WrittenNumber, d.InFull sign n := by
  let whole := Number.ofNat d.digits ++ List.replicate d.exponent.toNat '0'
  have digits : AllDigits whole :=
    List.forall_mem_append.2 ⟨Number.allDigits_ofNat d.digits, Number.allDigits_zeros _⟩
  have nonempty : whole ≠ [] := List.append_ne_nil_of_left_ne_nil (Number.ofNat_ne_nil _) _
  have worth : Number.digitsValue whole = 10 ^ d.exponent.toNat * d.digits := by
    rw [Number.digitsValue_append, Number.digitsValue_zeros, Number.digitsValue_ofNat,
      List.length_replicate, Nat.add_zero]
  let n : WrittenNumber :=
    ⟨sign, whole, none, none, digits, allDigits_of_mem_none,
      List.append_ne_nil_of_left_ne_nil nonempty []⟩
  refine ⟨n, ?_, rfl, nonempty, ?_, rfl, ?_⟩
  · simp [n, WrittenNumber.text, positional, nonneg, whole]
  · intro digits absent
    cases absent
  · rw [WrittenNumber.value_of_exponent_none rfl, value_of_nonneg nonneg]
    simp only [n, worth, Option.getD_none, Number.digitsValue_nil]
    push_cast
    rw [zero_div, add_zero, mul_comm (d.digits : ℚ)]

/-- Decimals are written out in full, with digits on both sides of the point. -/
theorem exists_inFull_of_neg (sign : Sign) {d : Decimal} (neg : d.exponent < 0) :
    ∃ n : WrittenNumber, d.InFull sign n := by
  obtain ⟨whole, fraction, split, wholeSome, count, positional⟩ := exists_cut_of_neg neg
  have fractionSome : fraction ≠ [] := by
    apply List.ne_nil_of_length_pos
    omega
  obtain ⟨wholeDigits, fractionDigits⟩ : AllDigits whole ∧ AllDigits fraction :=
    List.forall_mem_append.1 (split ▸ d.allDigits_padded _)
  have worth : d.digits = 10 ^ fraction.length * Number.digitsValue whole +
      Number.digitsValue fraction := by
    rw [← Number.digitsValue_append, split, digitsValue_padded]
  let n : WrittenNumber :=
    ⟨sign, whole, some fraction, none, wholeDigits, allDigits_of_mem_some fractionDigits,
      List.append_ne_nil_of_left_ne_nil wholeSome fraction⟩
  refine ⟨n, ?_, rfl, wholeSome, ?_, rfl, ?_⟩
  · simp [n, WrittenNumber.text, positional]
  · intro digits same
    cases same
    exact fractionSome
  · have nonzero : (10 : ℚ) ^ fraction.length ≠ 0 := pow_ne_zero _ (by decide)
    rw [WrittenNumber.value_of_exponent_none rfl, value_of_neg neg, worth, ← count]
    simp only [n, Option.getD_some]
    push_cast
    rw [add_div, mul_div_cancel_left₀ _ nonzero]

/-- **What is written in full is a number**, and it denotes the decimal with the sign. -/
theorem exists_inFull (sign : Sign) (d : Decimal) :
    ∃ n : WrittenNumber, d.InFull sign n := by
  rcases Int.lt_or_le d.exponent 0 with neg | nonneg
  · exact exists_inFull_of_neg sign neg
  · exact exists_inFull_of_nonneg sign nonneg

end Decimal

namespace Binary64

/-- A finite double is written as the shortest decimal that reads back, in full. -/
theorem exists_inFull_of_finite (negative : Bool) (x : Magnitude) :
    ∃ n : WrittenNumber, (x.shortest .upward).InFull (Sign.ofNegative negative) n ∧
      n.text = (finite negative x).full := by
  obtain ⟨n, inFull⟩ := (x.shortest .upward).exists_inFull (Sign.ofNegative negative)
  refine ⟨n, inFull, ?_⟩
  rw [inFull.text, Sign.text_ofNegative, full]

end Binary64

end SparqlRequest
