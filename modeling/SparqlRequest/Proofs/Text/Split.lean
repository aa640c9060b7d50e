/-
# Proofs.Text.Split -- splitting as the inverse of joining

Parts that do not hold the mark are found again between the marks (`splitOn_joinWith`), and
any text is put together again from its parts (`joinWith_splitOn`).  Lines are the case in
which a mark ends each part: `splitOn_lines_append` finds them in front of anything.
-/
import SparqlRequest.Text.Basic

set_option autoImplicit false

namespace SparqlRequest.Text

theorem splitOn_of_not_mem {mark : Char} {t : Text} (whole : mark ∉ t) :
    splitOn mark t = [t] := by
  induction t with
  | nil => rfl
  | cons c t ih =>
      rw [List.mem_cons, not_or] at whole
      rw [splitOn, if_neg (Ne.symm whole.1), ih whole.2]

/-- A part without the mark is split off at the mark behind it. -/
theorem splitOn_append_cons {mark : Char} {part : Text} (whole : mark ∉ part) (t : Text) :
    splitOn mark (part ++ mark :: t) = part :: splitOn mark t := by
  induction part with
  | nil => simp [splitOn]
  | cons c part ih =>
      rw [List.mem_cons, not_or] at whole
      rw [List.cons_append, splitOn, if_neg (Ne.symm whole.1), ih whole.2]

/-- Parts without the mark are found again between the marks. -/
theorem splitOn_joinWith {mark : Char} {parts : List Text} (nonempty : parts ≠ [])
    (whole : ∀ part ∈ parts, mark ∉ part) : splitOn mark (joinWith [mark] parts) = parts := by
  induction parts with
  | nil => exact absurd rfl nonempty
  | cons part parts ih =>
      rw [List.forall_mem_cons] at whole
      cases parts with
      | nil => exact splitOn_of_not_mem whole.1
      | cons next parts =>
          rw [joinWith, List.append_assoc, List.singleton_append, splitOn_append_cons whole.1,
            ih (List.cons_ne_nil next parts) whole.2]

theorem joinWith_cons_of_ne_nil {between part : Text} {parts : List Text} (more : parts ≠ []) :
    joinWith between (part :: parts) = part ++ between ++ joinWith between parts := by
  cases parts with
  | nil => exact absurd rfl more
  | cons next parts => rfl

/-- Joined parts are the first one and then each later one behind a mark. -/
theorem joinWith_cons (mark : Char) (first : Text) (later : List Text) :
    joinWith [mark] (first :: later) = first ++ (later.map (mark :: ·)).flatten := by
  induction later generalizing first with
  | nil => simp [joinWith]
  | cons next later ih => simp [joinWith, ih]

/-- The parts of a text, with the mark between them, are the text. -/
theorem joinWith_splitOn (mark : Char) (t : Text) : joinWith [mark] (splitOn mark t) = t := by
  induction t with
  | nil => rfl
  | cons c t ih =>
      have some := splitOn_ne_nil mark t
      rw [splitOn]
      by_cases here : c = mark
      · rw [if_pos here, joinWith_cons_of_ne_nil some, ih, here]
        rfl
      · rw [if_neg here]
        cases parts : splitOn mark t with
        | nil => exact absurd parts some
        | cons part rest =>
            rw [parts] at ih
            cases rest with
            | nil => exact congrArg (c :: ·) ih
            | cons next rest => exact congrArg (c :: ·) ih

/-- Parts that end in the mark are found again in front of anything. -/
theorem splitOn_lines_append {mark : Char} {parts : List Text}
    (whole : ∀ part ∈ parts, mark ∉ part) (t : Text) :
    splitOn mark ((parts.map (· ++ [mark])).flatten ++ t) = parts ++ splitOn mark t := by
  induction parts with
  | nil => rfl
  | cons part parts ih =>
      rw [List.forall_mem_cons] at whole
      rw [List.map_cons, List.flatten_cons, List.append_assoc, List.append_assoc,
        List.singleton_append, splitOn_append_cons whole.1, ih whole.2, List.cons_append]

end SparqlRequest.Text
