/-
# Query.Placeholder -- replacing placeholders in a template

A placeholder is a question mark, a name, and white space behind them.  `substitute`
goes through the template from left to right, from one occurrence of the question mark and
name to the next.  Where white space follows, the occurrence and all of that white space
give way to the replacement and one space; where it does not, the occurrence stays.
Either way the search goes on behind it, so a replacement is never searched itself.
-/
import SparqlRequest.Text.Blank

set_option autoImplicit false

namespace SparqlRequest.Placeholder

/-- The parts before and behind the first occurrence of `mark` in a text. -/
def occurrence? (mark : Text) : Text → Option (Text × Text)
  | [] => if mark = [] then some ([], []) else none
  | c :: t =>
      match Text.after? mark (c :: t) with
      | some rest => some ([], rest)
      | none => (occurrence? mark t).map fun parts => (c :: parts.1, parts.2)

theorem eq_of_occurrence? {mark t front back : Text}
    (found : occurrence? mark t = some (front, back)) : t = front ++ mark ++ back := by
  induction t generalizing front with
  | nil =>
      by_cases none_left : mark = []
      · simp_all [occurrence?]
      · simp [occurrence?, none_left] at found
  | cons c t ih =>
      simp only [occurrence?] at found
      split at found
      · rename_i rest here
        cases found
        simpa using Text.after?_eq_some_iff.1 here
      · obtain ⟨⟨front', back'⟩, later, same⟩ := Option.map_eq_some_iff.1 found
        cases same
        simp [ih later]

/-- What stands for the name of a placeholder in a template. -/
def mark (name : Text) : Text := '?' :: name

/-- The text with each placeholder of a name replaced. -/
def substitute (name replacement t : Text) : Text :=
  match _found : occurrence? (mark name) t with
  | none => t
  | some (front, back) =>
      let rest := substitute name replacement (Text.skipBlanks back)
      if Text.startsBlank back then front ++ replacement ++ ' ' :: rest
      else front ++ mark name ++ rest
termination_by t.length
decreasing_by
  have parts := congrArg List.length (eq_of_occurrence? _found)
  have shrinks := Text.skipBlanks_length_le back
  simp only [mark, List.length_append, List.length_cons] at parts
  omega

end SparqlRequest.Placeholder
