/-
# Text -- sequences of characters, and the few cuts that the library makes

A text is a list of Unicode scalar values.  Every rule of the library is a
recursion on that list; strings with bytes behind them appear only where a
program reads its input and prints its answer.

This module holds what several rules share: whether a text begins with another
(`after?`), the cut at the first occurrence of a character (`cut?`), all cuts at a
separator (`splitOn`), the reverse of that (`joinWith`), and the order of texts
that sorted output follows (`before`).  Code points compare like the bytes of
UTF-8, so `before` is also the order of the encoded texts.
-/

set_option autoImplicit false

namespace SparqlRequest

/-- A text: its characters in order. -/
abbrev Text := List Char

namespace Text

/-- What follows `lead` in a text, when the text begins with it. -/
def after? : Text → Text → Option Text
  | [], t => some t
  | _ :: _, [] => none
  | c :: lead, d :: t => if c = d then after? lead t else none

def startsWith (lead t : Text) : Bool := (after? lead t).isSome

/-- The parts before and after the first occurrence of `mark`. -/
def cut? (mark : Char) : Text → Option (Text × Text)
  | [] => none
  | c :: t =>
      if c = mark then some ([], t)
      else (cut? mark t).map fun parts => (c :: parts.1, parts.2)

/-- All parts between occurrences of `mark`; a text without one is its own only
part, so there is always at least one. -/
def splitOn (mark : Char) : Text → List Text
  | [] => [[]]
  | c :: t =>
      if c = mark then [] :: splitOn mark t
      else
        match splitOn mark t with
        | [] => [[c]]
        | part :: parts => (c :: part) :: parts

/-- The texts in order with `between` between neighbours. -/
def joinWith (between : Text) : List Text → Text
  | [] => []
  | [t] => t
  | t :: u :: rest => t ++ between ++ joinWith between (u :: rest)

/-- Strict order by code points, the shorter of two agreeing texts first. -/
def before : Text → Text → Bool
  | [], [] => false
  | [], _ :: _ => true
  | _ :: _, [] => false
  | c :: s, d :: t => if c = d then before s t else c.toNat < d.toNat

/-! ## Small laws -/

theorem after?_eq_some_iff {lead t rest : Text} :
    after? lead t = some rest ↔ t = lead ++ rest := by
  induction lead generalizing t with
  | nil => simp [after?, eq_comm]
  | cons c lead ih =>
      cases t with
      | nil => simp [after?]
      | cons d t =>
          by_cases same : c = d
          · simp [after?, same, ih]
          · simp [after?, same, eq_comm]

theorem startsWith_iff {lead t : Text} : startsWith lead t = true ↔ lead <+: t := by
  simp only [startsWith, Option.isSome_iff_exists, after?_eq_some_iff]
  constructor
  · rintro ⟨rest, rfl⟩
    exact ⟨rest, rfl⟩
  · rintro ⟨rest, rfl⟩
    exact ⟨rest, rfl⟩

theorem cut?_eq_some_iff {mark : Char} {t front back : Text} :
    cut? mark t = some (front, back) ↔ t = front ++ mark :: back ∧ mark ∉ front := by
  induction t generalizing front with
  | nil => simp [cut?]
  | cons c t ih =>
      by_cases here : c = mark
      · subst here
        cases front with
        | nil => simp [cut?, eq_comm]
        | cons d front =>
            simp only [cut?, if_true, Option.some.injEq, Prod.mk.injEq, List.cons_append,
              List.cons.injEq, List.mem_cons, not_or]
            constructor
            · rintro ⟨absurdity, _⟩
              exact absurd absurdity (by simp)
            · rintro ⟨⟨rfl, _⟩, differs, _⟩
              exact absurd rfl differs
      · cases front with
        | nil => simp [cut?, here]
        | cons d front =>
            simp only [cut?, if_neg here, Option.map_eq_some_iff, Prod.exists, Prod.mk.injEq,
              List.cons.injEq, List.cons_append, List.mem_cons, not_or]
            constructor
            · rintro ⟨x, y, found, ⟨rfl, rfl⟩, rfl⟩
              obtain ⟨rfl, absent⟩ := ih.1 found
              exact ⟨⟨rfl, rfl⟩, fun same => here same.symm, absent⟩
            · rintro ⟨⟨rfl, rfl⟩, _, absent⟩
              exact ⟨front, back, ih.2 ⟨rfl, absent⟩, ⟨rfl, rfl⟩, rfl⟩

/-- The first occurrence of a mark is the only place to cut there. -/
theorem append_cons_inj {mark : Char} {s t u v : Text} (first : mark ∉ s) (second : mark ∉ t)
    (same : s ++ mark :: u = t ++ mark :: v) : s = t ∧ u = v := by
  have cut : cut? mark (s ++ mark :: u) = some (s, u) := cut?_eq_some_iff.2 ⟨rfl, first⟩
  rw [cut?_eq_some_iff.2 ⟨same, second⟩] at cut
  cases cut
  exact ⟨rfl, rfl⟩

/-- Even the empty text has a part. -/
theorem splitOn_ne_nil (mark : Char) (t : Text) : splitOn mark t ≠ [] := by
  cases t with
  | nil => simp [splitOn]
  | cons c t =>
      by_cases here : c = mark
      · simp [splitOn, here]
      · simp only [splitOn, if_neg here]
        split <;> simp

end Text

end SparqlRequest
