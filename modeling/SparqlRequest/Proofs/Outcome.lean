/-
# Proofs.Outcome -- opening computations that can fail

A computation that can fail is opened by its last step: `bind_eq_ok_iff` and
`map_eq_ok_iff` say what came before a success.
-/
import SparqlRequest.Error

set_option autoImplicit false

namespace SparqlRequest

variable {ε α β : Type}

/-- Two steps come to a result through a result of the first. -/
theorem bind_eq_ok_iff {first : Except ε α} {next : α → Except ε β} {b : β} :
    (first >>= next) = .ok b ↔ ∃ a, first = .ok a ∧ next a = .ok b := by
  cases first with
  | error e => simp [bind, Except.bind]
  | ok a => simp [bind, Except.bind]

theorem map_eq_ok_iff {first : Except ε α} {f : α → β} {b : β} :
    first.map f = .ok b ↔ ∃ a, first = .ok a ∧ f a = b := by
  cases first with
  | error e => simp [Except.map]
  | ok a => simp [Except.map]

end SparqlRequest
