/-
# Proofs.Text.Word -- letters, words and white space

Letters are word characters, also the two from outside ASCII that fold to a letter, and
white space is not.  So a word ends where white space begins, and a keyword that is
read in any letter case lies inside a word.
-/
import Mathlib.Data.List.TakeWhile
import SparqlRequest.Text.Blank
import SparqlRequest.Text.LetterCase
import SparqlRequest.Text.Word

set_option autoImplicit false

namespace SparqlRequest.Text

/-! ## Characters -/

theorem toNat_lt_of_isAlpha {c : Char} (letter : c.isAlpha = true) : c.toNat < 0x80 := by
  have capitalOrSmall : c.isUpper = true ∨ c.isLower = true := Bool.or_eq_true_iff.1 letter
  rcases capitalOrSmall with capital | small
  · have upTo : c.val ≤ 'Z'.val := (of_decide_eq_true capital).2
    exact Nat.lt_of_le_of_lt (UInt32.le_iff_toNat_le.1 upTo) (by decide)
  · have upTo : c.val ≤ 'z'.val := of_decide_eq_true (Bool.and_eq_true_iff.1 small).2
    exact Nat.lt_of_le_of_lt (UInt32.le_iff_toNat_le.1 upTo) (by decide)

theorem isWord_of_isAlpha {c : Char} (letter : c.isAlpha = true) : isWord c = true := by
  rw [isWord, if_pos (toNat_lt_of_isAlpha letter)]
  show ((c.isAlpha || c.isDigit) || decide (c = '_')) = true
  rw [letter, Bool.true_or, Bool.true_or]

theorem isAlpha_of_toLower {c : Char} (letter : c.toLower.isAlpha = true) : c.isAlpha = true := by
  by_cases capital : c.isUpper = true
  · show (c.isUpper || c.isLower) = true
    rw [capital, Bool.true_or]
  · have kept : c.toLower = c := dif_neg fun both => capital (decide_eq_true both)
    rwa [kept] at letter

/-- What folds to a letter is a word character, the long s and the Kelvin sign included. -/
theorem isWord_of_fold {c : Char} (letter : (fold c).isAlpha = true) : isWord c = true := by
  by_cases long : c = '\u017F'
  · rw [long]
    decide +kernel
  · by_cases kelvin : c = '\u212A'
    · rw [kelvin]
      decide +kernel
    · rw [fold, if_neg long, if_neg kelvin] at letter
      exact isWord_of_isAlpha (isAlpha_of_toLower letter)

theorem isWord_of_isBlank {c : Char} (blank : isBlank c = true) : isWord c = false := by
  have everyCode : ∀ code ∈ blankCodes, isWord (Char.ofNat code) = false := by decide +kernel
  rw [← Char.ofNat_toNat c]
  exact everyCode c.toNat (List.contains_iff_mem.1 blank)

theorem startsBlank_of_isWord {c : Char} (word : isWord c = true) (t : Text) :
    startsBlank (c :: t) = false := by
  show isBlank c = false
  by_contra blank
  rw [Bool.not_eq_false] at blank
  rw [isWord_of_isBlank blank] at word
  cases word

/-! ## Leading words -/

theorem isWord_of_mem_leadingWord {t : Text} : ∀ c ∈ leadingWord t, isWord c = true :=
  fun _ member => List.mem_takeWhile_imp member

/-- A word ends where no word begins. -/
theorem leadingWord_append {word rest : Text} (inside : ∀ c ∈ word, isWord c = true)
    (stops : leadingWord rest = []) : leadingWord (word ++ rest) = word := by
  rw [leadingWord, List.takeWhile_append_of_pos inside, ← leadingWord, stops, List.append_nil]

theorem take_eq_leadingWord (t : Text) :
    t.take (t.length - (t.dropWhile isWord).length) = leadingWord t := by
  have size := congrArg List.length (List.takeWhile_append_dropWhile (p := isWord) (l := t))
  rw [List.length_append] at size
  have split : t.length - (t.dropWhile isWord).length = (leadingWord t).length := by
    rw [leadingWord]
    omega
  rw [split]
  exact (List.prefix_iff_eq_take.1 (List.takeWhile_prefix _)).symm

theorem leadingWord_behind (t : Text) : leadingWord (t.dropWhile isWord) = [] := by
  induction t with
  | nil => rfl
  | cons c t ih =>
      by_cases word : isWord c = true
      · rwa [List.dropWhile_cons_of_pos word]
      · rw [List.dropWhile_cons_of_neg word, leadingWord, List.takeWhile_cons_of_neg word]

/-! ## Leading white space -/

theorem skipBlanks_append {blanks : Text} (inside : ∀ c ∈ blanks, isBlank c = true) (t : Text) :
    skipBlanks (blanks ++ t) = skipBlanks t :=
  List.dropWhile_append_of_pos inside

/-- A word between white space and something that does not go on with it. -/
theorem leadingWord_skipBlanks_append {blanks word rest : Text}
    (white : ∀ c ∈ blanks, isBlank c = true) (inside : ∀ c ∈ word, isWord c = true)
    (nonempty : word ≠ []) (stops : leadingWord rest = []) :
    leadingWord (skipBlanks (blanks ++ (word ++ rest))) = word := by
  obtain ⟨c, tail, rfl⟩ := List.exists_cons_of_ne_nil nonempty
  have atWord : startsBlank (c :: tail ++ rest) = false :=
    startsBlank_of_isWord (inside c List.mem_cons_self) _
  rw [skipBlanks_append white, skipBlanks_of_not_startsBlank atWord,
    leadingWord_append inside stops]

end SparqlRequest.Text
