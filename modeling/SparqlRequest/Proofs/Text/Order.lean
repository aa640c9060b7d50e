/-
# Proofs.Text.Order -- the order of code points is the order of bytes

Texts are compared by code points, names in a sorted collection by the bytes of UTF-8.  The two
orders are one.  A code point is written as a first byte and up to three more, its digits to the
base 64.  A higher code point has a higher first byte, or the same one and as many bytes behind
it, and then the digits decide (`firstByte_lt`, `lastBytes_append_lt`).  So the first character
in which two texts differ decides between their bytes as well, whatever follows it
(`before_iff_utf8_lt`).
-/
import Mathlib.Algebra.Ring.Nat
import Mathlib.Data.List.Lex
import SparqlRequest.NameMap

set_option autoImplicit false

namespace SparqlRequest.Text

/-! ## The bytes of a code point -/

/-- How many bytes follow the first one. -/
def followers (code : Nat) : Nat :=
  if code ≤ 0x7f then 0 else if code ≤ 0x7ff then 1 else if code ≤ 0xffff then 2 else 3

def firstByte (code : Nat) : Nat :=
  if code ≤ 0x7f then code
  else if code ≤ 0x7ff then code / 64 + 0xc0
  else if code ≤ 0xffff then code / 4096 + 0xe0
  else code / 262144 + 0xf0

/-- The last `n` digits to the base 64, as bytes that follow a first one. -/
def lastBytes : Nat → Nat → List UInt8
  | 0, _ => []
  | n + 1, code => UInt8.ofNat (code / 64 ^ n % 64 + 0x80) :: lastBytes n code

theorem toNat_lt (c : Char) : c.toNat < 0x110000 := by
  rcases c.valid with low | high
  · exact Nat.lt_trans low (by decide)
  · exact high.2

/-- The bytes of a character are a first one, and the digits to the base 64 behind it. -/
theorem utf8EncodeChar_eq (c : Char) :
    String.utf8EncodeChar c =
      UInt8.ofNat (firstByte c.toNat) :: lastBytes (followers c.toNat) c.toNat := by
  have bound := toNat_lt c
  have code : c.val.toNat = c.toNat := rfl
  simp only [String.utf8EncodeChar, firstByte, followers, code]
  generalize c.toNat = v at bound
  split_ifs
  · rfl
  · have lead : v / 64 % 0x20 = v / 64 := by omega
    simp [lastBytes, lead]
  · have lead : v / 4096 % 0x10 = v / 4096 := by omega
    simp [lastBytes, lead]
  · have lead : v / 262144 % 0x08 = v / 262144 := by omega
    simp [lastBytes, lead]

theorem byte_cons_lt {m n : Nat} {s t : List UInt8} (small : n < 256)
    (lower : m < n ∨ m = n ∧ s < t) : UInt8.ofNat m :: s < UInt8.ofNat n :: t := by
  apply List.cons_lt_cons_iff.2
  rcases lower with less | ⟨rfl, rest⟩
  · left
    rw [UInt8.lt_iff_toNat_lt, UInt8.toNat_ofNat', UInt8.toNat_ofNat',
      Nat.mod_eq_of_lt (Nat.lt_trans less small), Nat.mod_eq_of_lt small]
    exact less
  · exact Or.inr ⟨rfl, rest⟩

theorem lastBytes_append_lt {n v w : Nat} (lower : v < w) (front : v / 64 ^ n = w / 64 ^ n)
    (s t : List UInt8) : lastBytes n v ++ s < lastBytes n w ++ t := by
  induction n with
  | zero =>
      rw [pow_zero, Nat.div_one, Nat.div_one] at front
      exact absurd front (Nat.ne_of_lt lower)
  | succ n ih =>
      have least : v / 64 ^ n ≤ w / 64 ^ n := Nat.div_le_div_right (Nat.le_of_lt lower)
      have before : v / 64 ^ n / 64 = w / 64 ^ n / 64 := by
        rw [Nat.div_div_eq_div_mul, Nat.div_div_eq_div_mul, ← pow_succ, front]
      apply byte_cons_lt (by omega)
      rcases Nat.lt_or_eq_of_le least with less | same
      · left
        omega
      · exact Or.inr ⟨by rw [same], ih same⟩

/-- The first byte rises with the code point, or the digits behind it decide. -/
theorem firstByte_lt {v w : Nat} (lower : v < w) :
    firstByte v < firstByte w ∨
      firstByte v = firstByte w ∧ followers v = followers w ∧
        v / 64 ^ followers v = w / 64 ^ followers v := by
  simp only [firstByte, followers]
  split_ifs <;> omega

theorem firstByte_lt_256 {code : Nat} (bound : code < 0x110000) : firstByte code < 256 := by
  rw [firstByte]
  split_ifs <;> omega

theorem utf8EncodeChar_append_lt {c d : Char} (lower : c.toNat < d.toNat) (s t : List UInt8) :
    String.utf8EncodeChar c ++ s < String.utf8EncodeChar d ++ t := by
  rw [utf8EncodeChar_eq, utf8EncodeChar_eq, List.cons_append, List.cons_append]
  apply byte_cons_lt (firstByte_lt_256 (toNat_lt d))
  rcases firstByte_lt lower with less | ⟨same, sameLength, front⟩
  · exact Or.inl less
  · rw [← sameLength]
    exact Or.inr ⟨same, lastBytes_append_lt lower front s t⟩

/-! ## The bytes of a text -/

def utf8 (t : Text) : List UInt8 := t.flatMap String.utf8EncodeChar

/-- The order of code points is the order of bytes. -/
theorem utf8_lt_of_before {s t : Text} (lower : before s t = true) : utf8 s < utf8 t := by
  induction s generalizing t with
  | nil =>
      cases t with
      | nil => cases lower
      | cons d t =>
          rw [utf8, utf8, List.flatMap_nil, List.flatMap_cons, utf8EncodeChar_eq, List.cons_append]
          exact List.nil_lt_cons _ _
  | cons c s ih =>
      cases t with
      | nil => cases lower
      | cons d t =>
          rw [utf8, utf8, List.flatMap_cons, List.flatMap_cons]
          rw [before] at lower
          by_cases same : c = d
          · rw [if_pos same] at lower
            rw [same]
            exact List.append_left_lt (ih lower)
          · rw [if_neg same] at lower
            exact utf8EncodeChar_append_lt (of_decide_eq_true lower) _ _

/-- **Texts are in the order of their UTF-8 bytes.** -/
theorem before_iff_utf8_lt {s t : Text} : before s t = true ↔ utf8 s < utf8 t := by
  constructor
  · exact utf8_lt_of_before
  · intro lower
    by_cases same : s = t
    · rw [same] at lower
      exact absurd lower (List.lt_irrefl _)
    · rcases before_total same with first | second
      · exact first
      · exact absurd (utf8_lt_of_before second) (List.lt_asymm lower)

/-! ## The linear order of texts -/

theorem before_iff_lt {s t : Text} : before s t = true ↔ s < t := by
  induction s generalizing t with
  | nil =>
      cases t with
      | nil => exact ⟨nofun, nofun⟩
      | cons d t => exact ⟨fun _ => List.nil_lt_cons _ _, fun _ => rfl⟩
  | cons c s ih =>
      cases t with
      | nil => exact ⟨nofun, nofun⟩
      | cons d t =>
          rw [before, List.cons_lt_cons_iff]
          by_cases same : c = d
          · rw [if_pos same, ih, same]
            simp
          · have codes : c.toNat < d.toNat ↔ c < d := UInt32.lt_iff_toNat_lt.symm
            rw [if_neg same, decide_eq_true_eq, codes]
            simp [same]

end SparqlRequest.Text
