/-
# Proofs.Pattern.Language -- what a pattern matches, whatever the search prefers

A pattern denotes a language, built with union, concatenation and closure and
without any order of preference (`Pattern.language`).  The search is exact for it:
`mem_ends_iff` says that `ends` leaves precisely what stands behind a word of the
language, so preference decides the order of that list and never its members, and
`matchesAll_iff` is the case where nothing is left.

A repetition needs two remarks.  A round that consumes nothing is skipped by the
search; the closure of a language has a word from nonempty parts only, so nothing
is lost.  And the number of rounds is bounded by the length of the text, which the
shrinking rest makes harmless (`rounds_of_length_le`), so a repetition unfolds
without its bound (`ends_star`).
-/
import Mathlib.Computability.Language
import SparqlRequest.Pattern.Basic

set_option autoImplicit false

namespace SparqlRequest.Pattern

open scoped Computability

/-! ## Runs and rounds -/

/-- A consumer that fails wherever the run could still go on sees only the longest
run. -/
theorem flatMap_runEnds {allowed : Char → Bool} {α : Type} {f : Text → List α}
    (dead : ∀ c t, allowed c = true → f (c :: t) = []) (t : Text) (shorter : List Text) :
    (runEnds allowed t shorter).flatMap f = f (t.dropWhile allowed) ++ shorter.flatMap f := by
  induction t generalizing shorter with
  | nil => rfl
  | cons c t ih =>
      by_cases goes : allowed c = true
      · simp [runEnds, goes, ih, dead c t goes]
      · simp [runEnds, goes]

theorem head?_runEnds (allowed : Char → Bool) (t : Text) (shorter : List Text) :
    (runEnds allowed t shorter).head? = some (t.dropWhile allowed) := by
  induction t generalizing shorter with
  | nil => rfl
  | cons c t ih =>
      by_cases goes : allowed c = true
      · simp [runEnds, goes, ih]
      · simp [runEnds, goes]

/-- The ends of a run are those behind any number of its characters. -/
theorem mem_runEnds {allowed : Char → Bool} {t rest : Text} {shorter : List Text} :
    rest ∈ runEnds allowed t shorter ↔
      rest ∈ shorter ∨ ∃ s, (∀ c ∈ s, allowed c = true) ∧ t = s ++ rest := by
  induction t generalizing shorter with
  | nil =>
      simp only [runEnds, List.mem_cons, List.nil_eq_append_iff]
      constructor
      · rintro (rfl | old)
        · exact Or.inr ⟨[], by simp⟩
        · exact Or.inl old
      · rintro (old | ⟨s, _, _, rfl⟩)
        · exact Or.inr old
        · exact Or.inl rfl
  | cons c t ih =>
      by_cases goes : allowed c = true
      · simp only [runEnds, if_pos goes, ih, List.mem_cons]
        constructor
        · rintro ((rfl | old) | ⟨s, run, rfl⟩)
          · exact Or.inr ⟨[], by simp⟩
          · exact Or.inl old
          · exact Or.inr ⟨c :: s, by simpa [goes] using run, rfl⟩
        · rintro (old | ⟨s, run, split⟩)
          · exact Or.inl (Or.inr old)
          · cases s with
            | nil => exact Or.inl (Or.inl split.symm)
            | cons d s =>
                obtain ⟨rfl, rfl⟩ := List.cons.inj split
                exact Or.inr ⟨s, fun e member => run e (List.mem_cons_of_mem _ member), rfl⟩
      · simp only [runEnds, if_neg goes, List.mem_cons]
        constructor
        · rintro (rfl | old)
          · exact Or.inr ⟨[], by simp⟩
          · exact Or.inl old
        · rintro (old | ⟨s, run, split⟩)
          · exact Or.inr old
          · cases s with
            | nil => exact Or.inl split.symm
            | cons d s =>
                obtain ⟨rfl, rfl⟩ := List.cons.inj split
                exact absurd (run c List.mem_cons_self) goes

/-- From the length of the text on, more rounds change nothing. -/
theorem rounds_of_length_le {step : Text → List Text} (n : Nat) (t : Text)
    (enough : t.length ≤ n) : rounds step n t = rounds step t.length t := by
  induction n using Nat.strongRecOn generalizing t with
  | ind n ih =>
      cases n with
      | zero =>
          rw [Nat.le_zero.1 enough]
      | succ n =>
          cases size : t.length with
          | zero => simp [rounds, size]
          | succ m =>
              simp only [rounds]
              congr 1
              apply List.flatMap_congr
              intro rest member
              have shrinks : rest.length < t.length := by simpa using (List.mem_filter.1 member).2
              rw [ih n (by omega) rest (by omega), ih m (by omega) rest (by omega)]

/-- One more round, or none. -/
theorem ends_star (round : Pattern) (t : Text) :
    ends (.star round) t =
      ((ends round t).filter fun rest => rest.length < t.length).flatMap (ends (.star round)) ++
        [t] := by
  cases size : t.length with
  | zero => simp [ends, rounds, size]
  | succ n =>
      simp only [ends, size, rounds]
      congr 1
      apply List.flatMap_congr
      intro rest member
      have shrinks : rest.length < n + 1 := by simpa using (List.mem_filter.1 member).2
      exact rounds_of_length_le n rest (by omega)

/-! ## The language of a pattern -/

/-- The texts that a pattern matches as a whole. -/
def language : Pattern → Language Char
  | .empty => 1
  | .one allowed => {t | ∃ c, allowed c = true ∧ t = [c]}
  | .run allowed => {t | ∀ c ∈ t, allowed c = true}
  | .seq first second => first.language * second.language
  | .alt left right => left.language + right.language
  | .star round => round.language∗

theorem mem_language_empty {t : Text} : t ∈ Pattern.empty.language ↔ t = [] := Iff.rfl

theorem mem_language_one {allowed : Char → Bool} {t : Text} :
    t ∈ (Pattern.one allowed).language ↔ ∃ c, allowed c = true ∧ t = [c] := Iff.rfl

theorem mem_language_run {allowed : Char → Bool} {t : Text} :
    t ∈ (Pattern.run allowed).language ↔ ∀ c ∈ t, allowed c = true := Iff.rfl

theorem mem_language_seq {p q : Pattern} {t : Text} :
    t ∈ (Pattern.seq p q).language ↔ ∃ s ∈ p.language, ∃ r ∈ q.language, s ++ r = t :=
  Language.mem_mul

theorem mem_language_alt {p q : Pattern} {t : Text} :
    t ∈ (Pattern.alt p q).language ↔ t ∈ p.language ∨ t ∈ q.language :=
  Language.mem_add _ _ _

/-- A word of a closure is empty, or begins with a nonempty part. -/
theorem mem_kstar_iff_nil_or {l : Language Char} {t : Text} :
    t ∈ l∗ ↔ t = [] ∨ ∃ s ∈ l, s ≠ [] ∧ ∃ r ∈ l∗, t = s ++ r := by
  constructor
  · rw [Language.mem_kstar_iff_exists_nonempty]
    rintro ⟨parts, rfl, good⟩
    cases parts with
    | nil => exact Or.inl rfl
    | cons s parts =>
        obtain ⟨inside, nonempty⟩ := good s List.mem_cons_self
        have later : parts.flatten ∈ l∗ :=
          Language.join_mem_kstar fun part member => (good part (List.mem_cons_of_mem _ member)).1
        exact Or.inr ⟨s, inside, nonempty, _, later, rfl⟩
  · rintro (rfl | ⟨s, inside, _, r, later, rfl⟩)
    · exact Language.nil_mem_kstar l
    · obtain ⟨parts, rfl, good⟩ := Language.mem_kstar.1 later
      refine Language.mem_kstar.2 ⟨s :: parts, rfl, fun part member => ?_⟩
      rcases List.mem_cons.1 member with rfl | member
      · exact inside
      · exact good part member

/-- A word of a closure of at most a given length is consumed part by part. -/
theorem mem_ends_star {round : Pattern}
    (exact : ∀ {t rest : Text}, rest ∈ ends round t ↔ ∃ s ∈ round.language, t = s ++ rest)
    {t rest : Text} :
    rest ∈ ends (.star round) t ↔ ∃ s ∈ round.language∗, t = s ++ rest := by
  induction size : t.length using Nat.strongRecOn generalizing t with
  | ind n ih =>
      rw [ends_star, List.mem_append, List.mem_flatMap]
      constructor
      · rintro (⟨middle, member, later⟩ | stop)
        · obtain ⟨consumed, shrinks⟩ := List.mem_filter.1 member
          obtain ⟨s, inside, rfl⟩ := exact.1 consumed
          have shorter : middle.length < (s ++ middle).length := by simpa using shrinks
          obtain ⟨r, rounds, rfl⟩ := (ih middle.length (by omega) rfl).1 later
          have nonempty : s ≠ [] := by
            rintro rfl
            simp at shorter
          exact ⟨s ++ r, mem_kstar_iff_nil_or.2 (Or.inr ⟨s, inside, nonempty, r, rounds, rfl⟩),
            by simp⟩
        · exact ⟨[], Language.nil_mem_kstar _, (List.mem_singleton.1 stop).symm⟩
      · rintro ⟨s, rounds, rfl⟩
        rcases mem_kstar_iff_nil_or.1 rounds with rfl | ⟨first, inside, nonempty, r, later, rfl⟩
        · exact Or.inr (List.mem_singleton.2 rfl)
        · have positive : 0 < first.length := List.length_pos_iff.2 nonempty
          have shorter : (r ++ rest).length < n := by
            simp only [List.length_append] at size ⊢
            omega
          refine Or.inl ⟨r ++ rest, List.mem_filter.2 ⟨exact.2 ⟨first, inside, by simp⟩, ?_⟩, ?_⟩
          · simpa [← size] using shorter
          · exact (ih _ shorter rfl).2 ⟨r, later, rfl⟩

/-- **The search is exact**: what it leaves is what stands behind a word of the
language. -/
theorem mem_ends_iff {p : Pattern} {t rest : Text} :
    rest ∈ ends p t ↔ ∃ s ∈ p.language, t = s ++ rest := by
  induction p generalizing t rest with
  | empty =>
      simp only [ends, List.mem_singleton, mem_language_empty, exists_eq_left, List.nil_append]
      exact eq_comm
  | one allowed =>
      cases t with
      | nil => simp [ends, mem_language_one]
      | cons c t =>
          by_cases fits : allowed c = true
          · simp only [ends, if_pos fits, List.mem_singleton, mem_language_one]
            constructor
            · rintro rfl
              exact ⟨[c], ⟨c, fits, rfl⟩, rfl⟩
            · rintro ⟨_, ⟨d, _, rfl⟩, split⟩
              exact (List.cons.inj split).2.symm
          · simp only [ends, if_neg fits, List.not_mem_nil, mem_language_one, false_iff]
            rintro ⟨_, ⟨d, fits', rfl⟩, split⟩
            exact fits ((List.cons.inj split).1 ▸ fits')
  | run allowed => simp [ends, mem_runEnds, mem_language_run]
  | seq first second firstExact secondExact =>
      simp only [ends, List.mem_flatMap, mem_language_seq]
      constructor
      · rintro ⟨middle, front, back⟩
        obtain ⟨s, inFirst, rfl⟩ := firstExact.1 front
        obtain ⟨r, inSecond, rfl⟩ := secondExact.1 back
        exact ⟨s ++ r, ⟨s, inFirst, r, inSecond, rfl⟩, by simp⟩
      · rintro ⟨_, ⟨s, inFirst, r, inSecond, rfl⟩, rfl⟩
        exact ⟨r ++ rest, firstExact.2 ⟨s, inFirst, by simp⟩, secondExact.2 ⟨r, inSecond, rfl⟩⟩
  | alt left right leftExact rightExact =>
      simp only [ends, List.mem_append, leftExact, rightExact, mem_language_alt]
      constructor
      · rintro (⟨s, inside, split⟩ | ⟨s, inside, split⟩)
        · exact ⟨s, Or.inl inside, split⟩
        · exact ⟨s, Or.inr inside, split⟩
      · rintro ⟨s, inside | inside, split⟩
        · exact Or.inl ⟨s, inside, split⟩
        · exact Or.inr ⟨s, inside, split⟩
  | star round ih => exact mem_ends_star ih

/-- The backtracking search finds a whole match exactly where the language has one. -/
theorem matchesAll_iff {p : Pattern} {t : Text} : p.matchesAll t = true ↔ t ∈ p.language := by
  have nothingLeft : p.matchesAll t = true ↔ [] ∈ ends p t := by
    simp only [matchesAll, List.any_eq_true, List.isEmpty_iff, exists_eq_right]
  rw [nothingLeft, mem_ends_iff]
  simp

/-! ## Derived patterns -/

theorem mem_language_char {c : Char} {t : Text} : t ∈ (char c).language ↔ t = [c] := by
  simp [char, mem_language_one]

theorem mem_language_many {allowed : Char → Bool} {t : Text} :
    t ∈ (many allowed).language ↔ t ≠ [] ∧ ∀ c ∈ t, allowed c = true := by
  simp only [many, mem_language_seq, mem_language_one, mem_language_run]
  constructor
  · rintro ⟨_, ⟨c, first, rfl⟩, r, run, rfl⟩
    exact ⟨List.cons_ne_nil c r, List.forall_mem_cons.2 ⟨first, run⟩⟩
  · rintro ⟨nonempty, inside⟩
    obtain ⟨c, r, rfl⟩ := List.exists_cons_of_ne_nil nonempty
    obtain ⟨first, run⟩ := List.forall_mem_cons.1 inside
    exact ⟨[c], ⟨c, first, rfl⟩, r, run, rfl⟩

theorem mem_language_optional {p : Pattern} {t : Text} :
    t ∈ (optional p).language ↔ t ∈ p.language ∨ t = [] := by
  rw [optional, mem_language_alt, mem_language_empty]

theorem mem_language_chain {classes : List (Char → Bool)} {t : Text} :
    t ∈ (chain classes).language ↔ List.Forall₂ (fun allowed c => allowed c = true) classes t := by
  induction classes generalizing t with
  | nil => simp [chain, mem_language_empty]
  | cons allowed classes ih =>
      have unfolded : chain (allowed :: classes) = .seq (.one allowed) (chain classes) := rfl
      simp only [unfolded, mem_language_seq, mem_language_one, ih]
      constructor
      · rintro ⟨_, ⟨c, first, rfl⟩, r, later, rfl⟩
        exact List.Forall₂.cons first later
      · rintro (_ | ⟨first, later⟩)
        exact ⟨[_], ⟨_, first, rfl⟩, _, later, rfl⟩

theorem mem_language_word {w t : Text} : t ∈ (word w).language ↔ t = w := by
  have equality : (fun c d : Char => d = c) = Eq := by
    funext c d
    exact propext eq_comm
  rw [word, mem_language_chain, List.forall₂_map_left_iff]
  simp only [decide_eq_true_eq, equality, List.forall₂_eq_eq_eq]
  exact eq_comm

theorem mem_language_all_nil {t : Text} : t ∈ (all []).language ↔ t = [] := Iff.rfl

theorem mem_language_all_cons {p : Pattern} {parts : List Pattern} {t : Text} :
    t ∈ (all (p :: parts)).language ↔
      ∃ s ∈ p.language, ∃ r ∈ (all parts).language, s ++ r = t :=
  mem_language_seq

/-! ## Alphabets -/

/-- Every class of the pattern lies in one set of characters. -/
def Within (inside : Char → Prop) : Pattern → Prop
  | .empty => True
  | .one allowed => ∀ c, allowed c = true → inside c
  | .run allowed => ∀ c, allowed c = true → inside c
  | .seq first second => first.Within inside ∧ second.Within inside
  | .alt left right => left.Within inside ∧ right.Within inside
  | .star round => round.Within inside

/-- A text holds only characters that its pattern mentions. -/
theorem forall_mem_of_within {inside : Char → Prop} {p : Pattern} (within : p.Within inside)
    {t : Text} (matched : t ∈ p.language) : ∀ c ∈ t, inside c := by
  induction p generalizing t with
  | empty =>
      rw [mem_language_empty.1 matched]
      exact List.forall_mem_nil _
  | one allowed =>
      obtain ⟨c, fits, rfl⟩ := mem_language_one.1 matched
      exact List.forall_mem_singleton.2 (within c fits)
  | run allowed => exact fun c member => within c (mem_language_run.1 matched c member)
  | seq first second firstIh secondIh =>
      obtain ⟨s, inFirst, r, inSecond, rfl⟩ := mem_language_seq.1 matched
      exact List.forall_mem_append.2 ⟨firstIh within.1 inFirst, secondIh within.2 inSecond⟩
  | alt left right leftIh rightIh =>
      rcases mem_language_alt.1 matched with inLeft | inRight
      · exact leftIh within.1 inLeft
      · exact rightIh within.2 inRight
  | star round ih =>
      obtain ⟨parts, rfl, good⟩ := Language.mem_kstar.1 matched
      intro c member
      obtain ⟨part, isPart, inPart⟩ := List.mem_flatten.1 member
      exact ih within (good part isPart) c inPart

end SparqlRequest.Pattern
