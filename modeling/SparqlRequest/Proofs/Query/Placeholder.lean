/-
# Proofs.Query.Placeholder -- where a binding cannot reach

A placeholder begins with a question mark.  What stands before the first question mark
of a text is therefore copied by every binding, whatever its name and its replacement
are (`substitute_append`).  Nor does a binding write anything but characters of the text and
of the replacement, and spaces (`mem_substitute`).
-/
import SparqlRequest.Query.Placeholder

set_option autoImplicit false

namespace SparqlRequest.Placeholder

variable {name replacement : Text}

/-! ## One step of a binding -/

theorem substitute_of_none {t : Text} (absent : occurrence? (mark name) t = none) :
    substitute name replacement t = t := by
  rw [substitute]
  split
  · rfl
  · rename_i front back found
    rw [absent] at found
    cases found

theorem substitute_of_some {t front back : Text}
    (found : occurrence? (mark name) t = some (front, back)) :
    substitute name replacement t =
      if Text.startsBlank back then
        front ++ replacement ++ ' ' :: substitute name replacement (Text.skipBlanks back)
      else front ++ mark name ++ substitute name replacement (Text.skipBlanks back) := by
  rw [substitute]
  split
  · rename_i absent
    rw [absent] at found
    cases found
  · rename_i front' back' alsoFound
    rw [alsoFound] at found
    cases found
    rfl

theorem substitute_nil : substitute name replacement [] = [] := substitute_of_none rfl

/-! ## Texts without a question mark -/

theorem occurrence?_append {front : Text} (unmarked : '?' ∉ front) (t : Text) :
    occurrence? (mark name) (front ++ t) =
      (occurrence? (mark name) t).map fun parts => (front ++ parts.1, parts.2) := by
  induction front with
  | nil => simp
  | cons c front ih =>
      rw [List.mem_cons, not_or] at unmarked
      have notHere : Text.after? (mark name) (c :: (front ++ t)) = none := by
        rw [mark, Text.after?, if_neg unmarked.1]
      rw [List.cons_append, occurrence?, notHere]
      show (occurrence? (mark name) (front ++ t)).map _ = _
      rw [ih unmarked.2, Option.map_map]
      rfl

/-- **A binding copies what stands before the first question mark.** -/
theorem substitute_append {front : Text} (unmarked : '?' ∉ front) (t : Text) :
    substitute name replacement (front ++ t) = front ++ substitute name replacement t := by
  have moved : occurrence? (mark name) (front ++ t) =
      (occurrence? (mark name) t).map fun parts => (front ++ parts.1, parts.2) :=
    occurrence?_append unmarked t
  cases found : occurrence? (mark name) t with
  | none =>
      rw [found, Option.map_none] at moved
      rw [substitute_of_none found, substitute_of_none moved]
  | some parts =>
      obtain ⟨before, behind⟩ := parts
      rw [found, Option.map_some] at moved
      rw [substitute_of_some found, substitute_of_some moved]
      split
      · simp only [List.append_assoc]
      · simp only [List.append_assoc]

/-! ## Characters -/

/-- **A binding writes no character of its own** but the space behind the replacement; the name
of the placeholder is never written. -/
theorem mem_substitute {c : Char} {t : Text} (member : c ∈ substitute name replacement t) :
    c ∈ t ∨ c ∈ replacement ∨ c = ' ' := by
  induction t using substitute.induct name replacement with
  | case1 t absent =>
      rw [substitute_of_none absent] at member
      exact Or.inl member
  | case2 t front back found spaced ih =>
      rw [substitute_of_some found, if_pos spaced, List.append_assoc, List.mem_append,
        List.mem_append, List.mem_cons] at member
      rw [eq_of_occurrence? found]
      rcases member with inFront | inReplacement | isSpace | behind
      · exact Or.inl (List.mem_append_left _ (List.mem_append_left _ inFront))
      · exact Or.inr (Or.inl inReplacement)
      · exact Or.inr (Or.inr isSpace)
      · refine (ih behind).imp_left fun inBack => List.mem_append_right _ ?_
        exact (List.dropWhile_sublist _).mem inBack
  | case3 t front back found unspaced ih =>
      rw [substitute_of_some found, if_neg unspaced, List.mem_append] at member
      rw [eq_of_occurrence? found]
      rcases member with inFront | behind
      · exact Or.inl (List.mem_append_left _ inFront)
      · refine (ih behind).imp_left fun inBack => List.mem_append_right _ ?_
        exact (List.dropWhile_sublist _).mem inBack

end SparqlRequest.Placeholder
