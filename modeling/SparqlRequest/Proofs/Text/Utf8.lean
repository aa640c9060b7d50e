/-
# Proofs.Text.Utf8 -- bytes of a text are read as that text

Reading bytes that may not be UTF-8 loses nothing where they are.  A code point is written as a
first byte and its last digits to the base 64 (`utf8EncodeChar_eq`).  Behind some of the
digits the bits read so far are the code point without the other digits, and this is what each
digit keeps (`lossyFrom_lastBytes`); the first byte brings it about (`firstOf_firstByte`), and
leaves a range for the byte behind it that the code point lies in (`digitByte_mem_range`).
-/
import SparqlRequest.Proofs.Text.Order
import SparqlRequest.Text.Utf8

set_option autoImplicit false

namespace SparqlRequest.Text

theorem lossyFrom_cons (begun : Option Begun) (byte : UInt8) (bytes : List UInt8) :
    lossyFrom begun (byte :: bytes) =
      (nextOf begun byte.toNat).1 ++ lossyFrom (nextOf begun byte.toNat).2 bytes := by
  cases begun with
  | none => rfl
  | some character => rfl

/-- The byte of the digit that comes next when `n` more follow it. -/
def digitByte (code n : Nat) : Nat := code / 64 ^ n % 64 + 0x80

theorem toNat_digitByte (code n : Nat) : (UInt8.ofNat (digitByte code n)).toNat = digitByte code n := by
  rw [UInt8.toNat_ofNat', Nat.mod_eq_of_lt]
  unfold digitByte
  omega

/-- One digit more: the bits read are the code point without the digits that follow. -/
theorem nextOf_digitByte {code n low high : Nat} (least : low ≤ digitByte code n)
    (greatest : digitByte code n ≤ high) :
    nextOf (some ⟨code / 64 ^ (n + 1), n + 1, low, high⟩) (digitByte code n) =
      if n = 0 then ([Char.ofNat code], none)
      else ([], some ⟨code / 64 ^ n, n, 0x80, 0xBF⟩) := by
  have bits : 64 * (code / 64 ^ (n + 1)) + (digitByte code n - 0x80) = code / 64 ^ n := by
    rw [pow_succ, ← Nat.div_div_eq_div_mul, digitByte]
    omega
  have within : low ≤ digitByte code n ∧ digitByte code n ≤ high := ⟨least, greatest⟩
  simp only [nextOf, if_pos within, bits]
  cases n with
  | zero => simp
  | succ n => simp

/-- Bytes that follow within their bounds complete the character that was begun. -/
theorem lossyFrom_lastBytes {code n low high : Nat} (least : low ≤ digitByte code n)
    (greatest : digitByte code n ≤ high) (rest : List UInt8) :
    lossyFrom (some ⟨code / 64 ^ (n + 1), n + 1, low, high⟩) (lastBytes (n + 1) code ++ rest) =
      Char.ofNat code :: lossyFrom none rest := by
  induction n generalizing low high with
  | zero =>
      show lossyFrom _ (UInt8.ofNat (digitByte code 0) :: rest) = _
      rw [lossyFrom_cons, toNat_digitByte, nextOf_digitByte least greatest]
      rfl
  | succ n ih =>
      show lossyFrom _ (UInt8.ofNat (digitByte code (n + 1)) :: (lastBytes (n + 1) code ++ rest)) = _
      rw [lossyFrom_cons, toNat_digitByte, nextOf_digitByte least greatest,
        if_neg (Nat.succ_ne_zero n)]
      apply ih
      · unfold digitByte
        omega
      · unfold digitByte
        omega

/-- A code point that a character can have. -/
theorem not_surrogate (c : Char) : c.toNat < 0xD800 ∨ 0xDFFF < c.toNat := by
  rcases c.valid with low | high
  · exact Or.inl low
  · exact Or.inr high.1

/-- The byte behind the first one of a longer form is in the range that is left for it. -/
theorem digitByte_mem_range (c : Char) {n : Nat} (longer : followers c.toNat = n + 1) :
    leastAfter (firstByte c.toNat) ≤ digitByte c.toNat n ∧
      digitByte c.toNat n ≤ greatestAfter (firstByte c.toNat) := by
  have bound := toNat_lt c
  have gap := not_surrogate c
  unfold leastAfter greatestAfter firstByte digitByte
  unfold followers at longer
  generalize c.toNat = code at *
  split_ifs at longer with one two three
  · cases longer
    simp only [if_neg one, if_pos two]
    split_ifs <;> omega
  · cases longer
    simp only [if_neg one, if_neg two, if_pos three]
    split_ifs <;> omega
  · cases longer
    simp only [if_neg one, if_neg two, if_neg three]
    split_ifs <;> omega

/-- The first byte of a longer form begins its code point. -/
theorem firstOf_firstByte (c : Char) {n : Nat} (longer : followers c.toNat = n + 1) :
    firstOf (firstByte c.toNat) =
      ([], some ⟨c.toNat / 64 ^ (n + 1), n + 1, leastAfter (firstByte c.toNat),
        greatestAfter (firstByte c.toNat)⟩) := by
  have bound := toNat_lt c
  have kinds : (n = 0 ∧ 0xC2 ≤ firstByte c.toNat ∧ firstByte c.toNat < 0xE0 ∧
        firstByte c.toNat - 0xC0 = c.toNat / 64) ∨
      (n = 1 ∧ 0xE0 ≤ firstByte c.toNat ∧ firstByte c.toNat < 0xF0 ∧
        firstByte c.toNat - 0xE0 = c.toNat / 4096) ∨
      (n = 2 ∧ 0xF0 ≤ firstByte c.toNat ∧ firstByte c.toNat < 0xF5 ∧
        firstByte c.toNat - 0xF0 = c.toNat / 262144) := by
    unfold firstByte
    unfold followers at longer
    split_ifs at longer ⊢ <;> omega
  rcases kinds with ⟨rfl, least, most, bits⟩ | ⟨rfl, least, most, bits⟩ | ⟨rfl, least, most, bits⟩
  · simp [firstOf, bits, most, show ¬ firstByte c.toNat < 0x80 by omega,
      show ¬ firstByte c.toNat < 0xC2 by omega]
  · simp [firstOf, bits, most, show ¬ firstByte c.toNat < 0x80 by omega,
      show ¬ firstByte c.toNat < 0xC2 by omega, show ¬ firstByte c.toNat < 0xE0 by omega]
  · simp [firstOf, bits, most, show ¬ firstByte c.toNat < 0x80 by omega,
      show ¬ firstByte c.toNat < 0xC2 by omega, show ¬ firstByte c.toNat < 0xE0 by omega,
      show ¬ firstByte c.toNat < 0xF0 by omega]

/-- The bytes of a character are read as that character. -/
theorem lossyFrom_utf8EncodeChar (c : Char) (rest : List UInt8) :
    lossyFrom none (String.utf8EncodeChar c ++ rest) = c :: lossyFrom none rest := by
  have small := firstByte_lt_256 (toNat_lt c)
  rw [utf8EncodeChar_eq, List.cons_append, lossyFrom_cons, UInt8.toNat_ofNat',
    Nat.mod_eq_of_lt small]
  show (firstOf (firstByte c.toNat)).1 ++ lossyFrom (firstOf (firstByte c.toNat)).2 _ = _
  cases length : followers c.toNat with
  | zero =>
      have ascii : c.toNat ≤ 0x7f := by
        unfold followers at length
        split_ifs at length with one
        exact one
      have first : firstByte c.toNat < 0x80 := by
        rw [firstByte, if_pos ascii]
        omega
      rw [firstOf, if_pos first, firstByte, if_pos ascii, Char.ofNat_toNat]
      rfl
  | succ n =>
      obtain ⟨least, greatest⟩ := digitByte_mem_range c length
      rw [firstOf_firstByte c length, List.nil_append, lossyFrom_lastBytes least greatest,
        Char.ofNat_toNat]

/-- **Bytes of a text are read as that text.** -/
theorem lossy_utf8 (t : Text) : lossy (utf8 t) = t := by
  induction t with
  | nil => rfl
  | cons c t ih =>
      rw [lossy, utf8, List.flatMap_cons, lossyFrom_utf8EncodeChar]
      exact congrArg (c :: ·) ih

/-- A byte that begins nothing, a character that breaks off in front of another, and one that
the end cuts off are one U+FFFD each. -/
example :
    lossy [0x22, 0xFF, 0xE2, 0x82, 0x41, 0xF0, 0x9F] =
      ['"', '\uFFFD', '\uFFFD', 'A', '\uFFFD'] := by
  decide

end SparqlRequest.Text
