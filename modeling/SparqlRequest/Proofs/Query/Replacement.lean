/-
# Proofs.Query.Replacement -- placeholders replaced position by position

A binding searches the text for its question mark and name, and then looks whether white
space follows.  `replaceAll` says the same without a search, and for any number of names
at once: at every position of the original text a placeholder with its white space gives
way to its replacement and a space, and any other character is copied.  A replacement is
never looked at again.

`substitute_eq_replaceAll` says that a binding is `replaceAll` of itself.  A name without a
question mark cannot hold the beginning of another occurrence, so what the search passes
over in one step is copied character by character as well.
-/
import Mathlib.Data.List.TakeWhile
import SparqlRequest.Proofs.Query.Placeholder

set_option autoImplicit false

namespace SparqlRequest.Placeholder

/-! ## Placeholders of several names -/

/-- What stands behind the placeholder of a name and its white space, if the text begins
with that placeholder. -/
def behind? (name t : Text) : Option Text :=
  (Text.after? (mark name) t).bind fun back =>
    if Text.startsBlank back then some (Text.skipBlanks back) else none

/-- The replacement of the placeholder with which the text begins, and what stands behind
the placeholder and its white space. -/
def placeholder? (bindings : List (Text × Text)) (t : Text) : Option (Text × Text) :=
  bindings.findSome? fun binding => (behind? binding.1 t).map fun rest => (binding.2, rest)

theorem behind?_eq_some_iff {name t rest : Text} :
    behind? name t = some rest ↔
      ∃ back, t = mark name ++ back ∧ Text.startsBlank back = true ∧
        Text.skipBlanks back = rest := by
  simp only [behind?, Option.bind_eq_some_iff, Text.after?_eq_some_iff]
  constructor
  · rintro ⟨back, split, found⟩
    by_cases spaced : Text.startsBlank back = true
    · rw [if_pos spaced, Option.some.injEq] at found
      exact ⟨back, split, spaced, found⟩
    · rw [if_neg spaced] at found
      cases found
  · rintro ⟨back, split, spaced, found⟩
    exact ⟨back, split, by rw [if_pos spaced, found]⟩

/-- A placeholder is its question mark and name, and white space up to a character that is
none. -/
theorem exists_of_behind? {name t rest : Text} (found : behind? name t = some rest) :
    ∃ blanks, t = mark name ++ (blanks ++ rest) ∧ Text.startsBlank (blanks ++ rest) = true ∧
      (∀ c ∈ blanks, Text.isBlank c = true) ∧ Text.startsBlank rest = false := by
  obtain ⟨back, rfl, spaced, rfl⟩ := behind?_eq_some_iff.1 found
  have split : back.takeWhile Text.isBlank ++ Text.skipBlanks back = back :=
    List.takeWhile_append_dropWhile
  refine ⟨back.takeWhile Text.isBlank, by rw [split], by rw [split]; exact spaced, ?_, ?_⟩
  · exact fun c member => List.mem_takeWhile_imp member
  · exact Text.startsBlank_skipBlanks back

theorem placeholder?_eq_none_iff {bindings : List (Text × Text)} {t : Text} :
    placeholder? bindings t = none ↔ ∀ binding ∈ bindings, behind? binding.1 t = none := by
  simp [placeholder?, List.findSome?_eq_none_iff]

theorem exists_of_placeholder? {bindings : List (Text × Text)} {t replacement rest : Text}
    (found : placeholder? bindings t = some (replacement, rest)) :
    ∃ binding ∈ bindings, binding.2 = replacement ∧ behind? binding.1 t = some rest := by
  obtain ⟨binding, member, here⟩ := List.exists_of_findSome?_eq_some found
  obtain ⟨rest', stands, same⟩ := Option.map_eq_some_iff.1 here
  cases same
  exact ⟨binding, member, rfl, stands⟩

theorem length_lt_of_behind? {name t rest : Text} (found : behind? name t = some rest) :
    rest.length < t.length := by
  obtain ⟨back, rfl, _, rfl⟩ := behind?_eq_some_iff.1 found
  have shrinks := Text.skipBlanks_length_le back
  simp only [mark, List.cons_append, List.length_cons, List.length_append]
  omega

/-- The text with the placeholders of all names replaced at once. -/
def replaceAll (bindings : List (Text × Text)) : Text → Text
  | [] => []
  | c :: t =>
      match _found : placeholder? bindings (c :: t) with
      | some (replacement, rest) => replacement ++ ' ' :: replaceAll bindings rest
      | none => c :: replaceAll bindings t
termination_by t => t.length
decreasing_by
  · obtain ⟨_, _, _, stands⟩ := exists_of_placeholder? _found
    exact length_lt_of_behind? stands
  · exact Nat.lt_succ_self _

variable {bindings : List (Text × Text)}

theorem replaceAll_nil : replaceAll bindings [] = [] := by rw [replaceAll]

/-- A placeholder, with all white space behind it, becomes its replacement and one space. -/
theorem replaceAll_of_some {t replacement rest : Text}
    (found : placeholder? bindings t = some (replacement, rest)) :
    replaceAll bindings t = replacement ++ ' ' :: replaceAll bindings rest := by
  cases t with
  | nil =>
      obtain ⟨_, _, _, stands⟩ := exists_of_placeholder? found
      exact absurd (length_lt_of_behind? stands) (Nat.not_lt_zero _)
  | cons c t =>
      rw [replaceAll]
      split
      · rename_i replacement' rest' also
        rw [found] at also
        cases also
        rfl
      · rename_i absent
        rw [found] at absent
        cases absent

theorem replaceAll_of_none {c : Char} {t : Text} (absent : placeholder? bindings (c :: t) = none) :
    replaceAll bindings (c :: t) = c :: replaceAll bindings t := by
  rw [replaceAll]
  split
  · rename_i found
    rw [absent] at found
    cases found
  · rfl

theorem replaceAll_without_bindings (t : Text) : replaceAll [] t = t := by
  induction t with
  | nil => exact replaceAll_nil
  | cons c t ih => rw [replaceAll_of_none rfl, ih]

/-! ## Where no placeholder stands -/

theorem behind?_of_ne {name t : Text} {c : Char} (plain : c ≠ '?') :
    behind? name (c :: t) = none := by
  rw [behind?, mark, Text.after?, if_neg (Ne.symm plain), Option.bind_none]

theorem placeholder?_of_ne {t : Text} {c : Char} (plain : c ≠ '?') :
    placeholder? bindings (c :: t) = none :=
  placeholder?_eq_none_iff.2 fun _ _ => behind?_of_ne plain

/-- A front without question marks is left as it is. -/
theorem replaceAll_append {front : Text} (unmarked : '?' ∉ front) (t : Text) :
    replaceAll bindings (front ++ t) = front ++ replaceAll bindings t := by
  induction front with
  | nil => rfl
  | cons c front ih =>
      rw [List.mem_cons, not_or] at unmarked
      rw [List.cons_append, replaceAll_of_none (placeholder?_of_ne (Ne.symm unmarked.1)),
        ih unmarked.2, List.cons_append]

/-! ## One binding -/

section One

variable {name replacement : Text}

theorem placeholder?_singleton (t : Text) :
    placeholder? [(name, replacement)] t =
      (behind? name t).map fun rest => (replacement, rest) := by
  cases found : behind? name t with
  | none => simp [placeholder?, found]
  | some rest => simp [placeholder?, found]

theorem substitute_of_behind? {t rest : Text} (found : behind? name t = some rest) :
    substitute name replacement t =
      replacement ++ ' ' :: substitute name replacement rest := by
  obtain ⟨back, rfl, spaced, rfl⟩ := behind?_eq_some_iff.1 found
  have here : occurrence? (mark name) (mark name ++ back) = some ([], back) := by
    have front : Text.after? (mark name) (mark name ++ back) = some back :=
      Text.after?_eq_some_iff.2 rfl
    rw [mark, List.cons_append] at front ⊢
    rw [occurrence?, front]
  rw [substitute_of_some here, if_pos spaced, List.nil_append]

/-- A character at which no placeholder stands is copied.  An occurrence of the name that
white space does not follow is left behind in one step; its name holds no further question
mark, so it is copied character by character as well. -/
theorem substitute_of_no_behind? (unmarked : '?' ∉ name) {c : Char} {t : Text}
    (absent : behind? name (c :: t) = none) :
    substitute name replacement (c :: t) = c :: substitute name replacement t := by
  cases front : Text.after? (mark name) (c :: t) with
  | none =>
      have later : occurrence? (mark name) (c :: t) =
          (occurrence? (mark name) t).map fun parts => (c :: parts.1, parts.2) := by
        rw [occurrence?, front]
      cases found : occurrence? (mark name) t with
      | none =>
          rw [found, Option.map_none] at later
          rw [substitute_of_none later, substitute_of_none found]
      | some parts =>
          rw [found, Option.map_some] at later
          rw [substitute_of_some later, substitute_of_some found]
          split <;> simp only [List.cons_append]
  | some back =>
      have unspaced : Text.startsBlank back = false := by simpa [behind?, front] using absent
      have here : occurrence? (mark name) (c :: t) = some ([], back) := by
        rw [occurrence?, front]
      have split : c :: t = '?' :: (name ++ back) := Text.after?_eq_some_iff.1 front
      obtain ⟨rfl, rfl⟩ := List.cons.inj split
      rw [substitute_of_some here, unspaced, Text.skipBlanks_of_not_startsBlank unspaced,
        substitute_append unmarked, if_neg Bool.false_ne_true, mark, List.nil_append,
        List.cons_append]

/-- **A binding replaces its placeholder position by position**, whatever its name, as long
as the name holds no question mark. -/
theorem substitute_eq_replaceAll (unmarked : '?' ∉ name) (t : Text) :
    substitute name replacement t = replaceAll [(name, replacement)] t := by
  induction t using replaceAll.induct [(name, replacement)] with
  | case1 => rw [substitute_nil, replaceAll_nil]
  | case2 c t replacement' rest found ih =>
      have stands := found
      rw [placeholder?_singleton] at stands
      obtain ⟨_, stands, same⟩ := Option.map_eq_some_iff.1 stands
      cases same
      rw [substitute_of_behind? stands, ih, replaceAll_of_some found]
  | case3 c t absent ih =>
      have none := absent
      rw [placeholder?_singleton, Option.map_eq_none_iff] at none
      rw [substitute_of_no_behind? unmarked none, ih, replaceAll_of_none absent]

end One

end SparqlRequest.Placeholder
