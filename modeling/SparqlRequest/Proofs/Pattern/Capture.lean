/-
# Proofs.Pattern.Capture -- where a capture stands, and repetitions without choice

`capture?` gives a captured text and forgets its place.  `located?` keeps what the
text is from the captured part on and behind it, and `capture?_eq_located?` says that
nothing else is lost.

The search goes through a repetition by trying one round more before stopping.  Where
the round can match in one way at most, that is all there is to know: the capture
behind one round comes first, the capture without a round is the fallback
(`located?_of_round`), and where no round fits only the latter is left
(`located?_of_no_round`).
-/
import SparqlRequest.Proofs.Pattern.Language

set_option autoImplicit false

namespace SparqlRequest.Pattern

variable {p q lead group : Pattern} {allowed : Char → Bool}

/-! ## Captures with their place -/

/-- The text from the captured part on, and the text behind it. -/
def located? (lead group : Pattern) (t : Text) : Option (Text × Text) :=
  (ends lead t).findSome? fun rest => (ends group rest).head?.map fun left => (rest, left)

theorem capture?_eq_located? (lead group : Pattern) (t : Text) :
    capture? lead group t =
      (located? lead group t).map fun place => place.1.take (place.1.length - place.2.length) := by
  simp [capture?, located?, List.map_findSome?, Function.comp_def]

theorem findSome?_flatMap {α β γ : Type} (l : List α) (f : α → List β) (g : β → Option γ) :
    (l.flatMap f).findSome? g = l.findSome? fun a => (f a).findSome? g := by
  induction l with
  | nil => rfl
  | cons a l ih =>
      rw [List.flatMap_cons, List.findSome?_append, ih, List.findSome?_cons]
      cases (f a).findSome? g with
      | none => rfl
      | some c => rfl

/-- Behind a sequence, the first end from which the rest is located counts. -/
theorem located?_seq (t : Text) :
    located? (.seq p q) group t = (ends p t).findSome? (located? q group) :=
  findSome?_flatMap _ _ _

theorem located?_empty (t : Text) :
    located? .empty group t = (ends group t).head?.map fun left => (t, left) := by
  simp [located?, ends]

/-! ## Runs before a capture -/

/-- Where the capture fails as long as a run can go on, the run is taken as a whole. -/
theorem located?_run (dead : ∀ c t, allowed c = true → ends group (c :: t) = []) (t : Text) :
    located? (.run allowed) group t = located? .empty group (t.dropWhile allowed) := by
  have asHead : ∀ l : List Text,
      (l.findSome? fun rest => (ends group rest).head?.map fun left => (rest, left)) =
        (l.flatMap fun rest => (ends group rest).map fun left => (rest, left)).head? := by
    intro l
    simp only [List.head?_flatMap, List.head?_map]
  rw [located?, asHead, ends, flatMap_runEnds, located?_empty]
  · simp
  · intro c rest goes
    rw [dead c rest goes]
    rfl

/-! ## Repetitions before a capture -/

/-- A round that matches in one way: its capture comes first, the capture without it
is the fallback. -/
theorem located?_of_round {t rest : Text} (single : ends p t = [rest])
    (shrinks : rest.length < t.length) :
    located? (.seq (.star p) q) group t =
      (located? (.seq (.star p) q) group rest).or (located? q group t) := by
  simp only [located?_seq, ends_star p t, single, List.findSome?_append]
  simp [shrinks]

/-- No round fits. -/
theorem located?_of_no_round {t : Text} (stuck : ends p t = []) :
    located? (.seq (.star p) q) group t = located? q group t := by
  simp [located?_seq, ends_star p t, stuck]

end SparqlRequest.Pattern
