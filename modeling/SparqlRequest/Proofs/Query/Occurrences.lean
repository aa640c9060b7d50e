/-
# Proofs.Query.Occurrences -- which occurrences a binding replaces

A placeholder stands at a place of a template when the question mark, the name and at least one
character of white space follow there (`Stands`).  `Rewritten` says what becomes of a template
if one looks at every place in turn: a placeholder gives way, with all the white space behind
it, to the replacement and one space, and any other character is copied.  A binding jumps from
one occurrence of the name to the next instead, also over those it keeps, and
`rewritten_iff_substitute` says that the outcome is the same, as long as the name holds no
question mark.

For such a name a question mark always begins something new: the text before it and the text
from it on are rewritten apart (`substitute_append_mark`).  So no placeholder of the template is
missed, whatever stands before it.
-/
import SparqlRequest.Proofs.Query.Replacement
import SparqlRequest.Query.Basic

set_option autoImplicit false

namespace SparqlRequest.Placeholder

/-! ## Placeholders, spelled out -/

/-- The text begins with a question mark, the name, and white space. -/
def Stands (name t : Text) : Prop :=
  ∃ c rest, t = '?' :: (name ++ c :: rest) ∧ Text.isBlank c = true

/-- What becomes of a template, place by place. -/
inductive Rewritten (name replacement : Text) : Text → Text → Prop
  /-- Nothing is left. -/
  | done : Rewritten name replacement [] []
  /-- A placeholder with all of its white space gives way. -/
  | replaced {blanks rest out : Text} (spaced : blanks ≠ [])
      (white : ∀ c ∈ blanks, Text.isBlank c = true) (ended : Text.startsBlank rest = false)
      (behind : Rewritten name replacement rest out) :
      Rewritten name replacement ('?' :: (name ++ (blanks ++ rest)))
        (replacement ++ ' ' :: out)
  /-- A character at which no placeholder stands is copied. -/
  | copied {c : Char} {t out : Text} (plain : ¬ Stands name (c :: t))
      (behind : Rewritten name replacement t out) :
      Rewritten name replacement (c :: t) (c :: out)

variable {name replacement : Text}

theorem behind?_eq_none_iff {t : Text} : behind? name t = none ↔ ¬ Stands name t := by
  constructor
  · rintro absent ⟨c, rest, rfl, blank⟩
    have found : behind? name ('?' :: (name ++ c :: rest)) =
        some (Text.skipBlanks (c :: rest)) :=
      behind?_eq_some_iff.2 ⟨c :: rest, rfl, blank, rfl⟩
    rw [absent] at found
    cases found
  · intro nowhere
    rw [Option.eq_none_iff_forall_ne_some]
    intro rest found
    obtain ⟨back, rfl, spaced, _⟩ := behind?_eq_some_iff.1 found
    cases back with
    | nil => cases spaced
    | cons c back => exact nowhere ⟨c, back, rfl, spaced⟩

theorem ne_nil_of_spaced {blanks rest : Text} (spaced : Text.startsBlank (blanks ++ rest) = true)
    (ended : Text.startsBlank rest = false) : blanks ≠ [] := by
  rintro rfl
  rw [List.nil_append, ended] at spaced
  cases spaced

/-- A placeholder with its white space, and what stands behind them. -/
theorem behind?_of_spaced {blanks rest : Text} (spaced : blanks ≠ [])
    (white : ∀ c ∈ blanks, Text.isBlank c = true) (ended : Text.startsBlank rest = false) :
    behind? name ('?' :: (name ++ (blanks ++ rest))) = some rest := by
  obtain ⟨c, more, rfl⟩ := List.exists_cons_of_ne_nil spaced
  refine behind?_eq_some_iff.2 ⟨c :: more ++ rest, rfl, white c List.mem_cons_self, ?_⟩
  have skipped : Text.skipBlanks (c :: more ++ rest) = Text.skipBlanks rest :=
    List.dropWhile_append_of_pos white
  rw [skipped, Text.skipBlanks_of_not_startsBlank ended]

/-! ## Place by place -/

/-- A rewriting place by place comes to what is substituted. -/
theorem Rewritten.substitute_eq (unmarked : '?' ∉ name) {t out : Text}
    (rewritten : Rewritten name replacement t out) : substitute name replacement t = out := by
  induction rewritten with
  | done => exact substitute_nil
  | replaced spaced white ended _ ih =>
      rw [substitute_of_behind? (behind?_of_spaced spaced white ended), ih]
  | copied plain _ ih =>
      rw [substitute_of_no_behind? unmarked (behind?_eq_none_iff.2 plain), ih]

/-- What is substituted is a rewriting place by place. -/
theorem rewritten_substitute (unmarked : '?' ∉ name) (t : Text) :
    Rewritten name replacement t (substitute name replacement t) := by
  induction size : t.length using Nat.strongRecOn generalizing t with
  | ind n ih =>
      cases t with
      | nil =>
          rw [substitute_nil]
          exact .done
      | cons c t =>
          cases found : behind? name (c :: t) with
          | none =>
              rw [substitute_of_no_behind? unmarked found]
              refine .copied (behind?_eq_none_iff.1 found) (ih t.length ?_ t rfl)
              rw [← size]
              exact Nat.lt_succ_self _
          | some rest =>
              have shorter : rest.length < n := size ▸ length_lt_of_behind? found
              obtain ⟨blanks, split, spaced, white, ended⟩ := exists_of_behind? found
              rw [substitute_of_behind? found, split]
              exact .replaced (ne_nil_of_spaced spaced ended) white ended
                (ih rest.length shorter rest rfl)

/-- **A binding rewrites a template place by place.** -/
theorem rewritten_iff_substitute (unmarked : '?' ∉ name) {t out : Text} :
    Rewritten name replacement t out ↔ substitute name replacement t = out := by
  constructor
  · exact fun rewritten => rewritten.substitute_eq unmarked
  · rintro rfl
    exact rewritten_substitute unmarked t

/-! ## Occurrences inside a template -/

/-- A stretch in which no placeholder begins is copied. -/
theorem substitute_stretch (unmarked : '?' ∉ name) {front rest : Text}
    (plain : ∀ before after, front = before ++ after → after ≠ [] →
      ¬ Stands name (after ++ rest)) :
    substitute name replacement (front ++ rest) = front ++ substitute name replacement rest := by
  induction front with
  | nil => rfl
  | cons c front ih =>
      have here : behind? name (c :: (front ++ rest)) = none :=
        behind?_eq_none_iff.2 (plain [] (c :: front) rfl (List.cons_ne_nil _ _))
      have later : ∀ before after, front = before ++ after → after ≠ [] →
          ¬ Stands name (after ++ rest) := by
        rintro before after rfl nonempty
        exact plain (c :: before) after rfl nonempty
      rw [List.cons_append, substitute_of_no_behind? unmarked here, ih later, List.cons_append]

/-- A later question mark neither makes a placeholder nor unmakes one. -/
theorem behind?_append_mark (unmarked : '?' ∉ name) {front : Text} (nonempty : front ≠ [])
    (back : Text) :
    behind? name (front ++ '?' :: back) =
      (behind? name front).map fun rest => rest ++ '?' :: back := by
  cases found : behind? name front with
  | some rest =>
      obtain ⟨blanks, rfl, spaced, white, ended⟩ := exists_of_behind? found
      have stillEnded : Text.startsBlank (rest ++ '?' :: back) = false := by
        cases rest with
        | nil => rfl
        | cons c rest => exact ended
      have split : mark name ++ (blanks ++ rest) ++ '?' :: back =
          '?' :: (name ++ (blanks ++ (rest ++ '?' :: back))) := by
        simp only [mark, List.cons_append, List.append_assoc]
      rw [Option.map_some, split, behind?_of_spaced (ne_nil_of_spaced spaced ended) white
        stillEnded]
  | none =>
      rw [Option.map_none, behind?_eq_none_iff]
      rintro ⟨d, rest, split, blank⟩
      obtain ⟨c, front, rfl⟩ := List.exists_cons_of_ne_nil nonempty
      obtain ⟨rfl, joined⟩ := List.cons.inj split
      rcases List.append_eq_append_iff.1 joined with ⟨more, rfl, same⟩ | ⟨more, rfl, same⟩
      · -- The name would have to go on with the question mark, or white space be one.
        cases more with
        | nil =>
            obtain ⟨rfl, _⟩ := List.cons.inj same
            cases blank
        | cons e more =>
            obtain ⟨rfl, _⟩ := List.cons.inj same
            exact unmarked (List.mem_append_right _ List.mem_cons_self)
      · cases more with
        | nil =>
            obtain ⟨rfl, _⟩ := List.cons.inj same
            cases blank
        | cons e more =>
            obtain ⟨rfl, _⟩ := List.cons.inj same
            exact behind?_eq_none_iff.1 found ⟨d, more, rfl, blank⟩

/-- **A question mark begins something new**: the text before it and the text from it on are
rewritten apart. -/
theorem substitute_append_mark (unmarked : '?' ∉ name) (front back : Text) :
    substitute name replacement (front ++ '?' :: back) =
      substitute name replacement front ++ substitute name replacement ('?' :: back) := by
  induction size : front.length using Nat.strongRecOn generalizing front with
  | ind n ih =>
      cases front with
      | nil => rw [substitute_nil, List.nil_append, List.nil_append]
      | cons c front =>
          have behind := behind?_append_mark unmarked (List.cons_ne_nil c front) back
          cases found : behind? name (c :: front) with
          | none =>
              rw [found, Option.map_none] at behind
              have shorter : front.length < n := by
                rw [← size]
                exact Nat.lt_succ_self _
              rw [List.cons_append] at behind ⊢
              rw [substitute_of_no_behind? unmarked behind, ih _ shorter front rfl,
                substitute_of_no_behind? unmarked found, List.cons_append]
          | some rest =>
              rw [found, Option.map_some] at behind
              have shorter : rest.length < n := size ▸ length_lt_of_behind? found
              rw [substitute_of_behind? behind, ih _ shorter rest rfl,
                substitute_of_behind? found, List.append_assoc, List.cons_append]

end SparqlRequest.Placeholder

namespace SparqlRequest.Query

open Placeholder

/-- **A binding replaces the placeholders of its name and nothing else.**  Its outcome is the one
that looks at every place of the text in turn; each placeholder of the original text is
replaced, whatever stands before it; a stretch in which none begins is copied as it is, and so is
a text without any. -/
theorem bind_rewrites {name : Text} (unmarked : '?' ∉ name) (query : Query) (replacement : Text) :
    (∀ out, Rewritten name replacement query.text out ↔
        (query.bind name replacement).text = out) ∧
      (∀ front blanks rest, query.text = front ++ '?' :: (name ++ (blanks ++ rest)) →
        blanks ≠ [] → (∀ c ∈ blanks, Text.isBlank c = true) → Text.startsBlank rest = false →
        (query.bind name replacement).text =
          substitute name replacement front ++
            (replacement ++ ' ' :: substitute name replacement rest)) ∧
      (∀ front rest, query.text = front ++ rest →
        (∀ before after, front = before ++ after → after ≠ [] → ¬ Stands name (after ++ rest)) →
        (query.bind name replacement).text = front ++ substitute name replacement rest) ∧
      ((∀ front back, query.text = front ++ back → ¬ Stands name back) →
        (query.bind name replacement).text = query.text) := by
  have bound : (query.bind name replacement).text = substitute name replacement query.text := rfl
  refine ⟨fun out => ?_, ?_, ?_, ?_⟩
  · rw [bound]
    exact rewritten_iff_substitute unmarked
  · intro front blanks rest split spaced white ended
    rw [bound, split, substitute_append_mark unmarked,
      substitute_of_behind? (behind?_of_spaced spaced white ended)]
  · intro front rest split plain
    rw [bound, split, substitute_stretch unmarked plain]
  · intro nowhere
    have plain : ∀ before after, query.text = before ++ after → after ≠ [] →
        ¬ Stands name (after ++ []) := by
      intro before after split _
      rw [List.append_nil]
      exact nowhere before after split
    have copied : substitute name replacement (query.text ++ []) =
        query.text ++ substitute name replacement [] := substitute_stretch unmarked plain
    rw [List.append_nil, substitute_nil, List.append_nil] at copied
    rw [bound, copied]

/-- A name with a space in it, placeholders side by side and at the end of the text, and a
replacement that holds the placeholder itself. -/
theorem bind_rewrites_side_by_side :
    let query := create "x ?a b?a b \n?a b".toList Registry.empty
    '?' ∉ "a b".toList ∧
      Rewritten "a b".toList "?a b ".toList query.text "x ?a b?a b  ?a b".toList := by
  intro query
  have unmarked : '?' ∉ "a b".toList := by decide
  exact ⟨unmarked, ((bind_rewrites unmarked query _).1 _).2 (by decide +kernel)⟩

end SparqlRequest.Query
