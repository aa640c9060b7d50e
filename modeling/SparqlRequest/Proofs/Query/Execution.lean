/-
# Proofs.Query.Execution -- what a query shows and sends

A query is finished in two steps that can fail, the preamble and the classification
(`statement_eq`).  Executing it sends what it is finished as, and nothing if it cannot be
(`execute_of_statement`, `execute_of_fault`).  Bindings change the text and leave the
declarations (`bindAll_registry`, `bindAll_text_eq`).
-/
import SparqlRequest.Proofs.Registry.Preamble
import SparqlRequest.Query.Basic

set_option autoImplicit false

namespace SparqlRequest.Query

variable {query : Query}

/-! ## Bindings in turn -/

theorem bindAll_registry (query : Query) (bindings : List (Text × Text)) :
    (query.bindAll bindings).registry = query.registry := by
  induction bindings generalizing query with
  | nil => rfl
  | cons binding bindings ih => exact ih (query.bind binding.1 binding.2)

theorem statement_eq_of_preamble {preamble : Text}
    (written : query.registry.preamble = .ok preamble) :
    query.statement =
      (StatementKind.classify (preamble ++ query.text)).map fun kind =>
        ⟨preamble ++ query.text, kind⟩ := by
  rw [statement, render, written]
  rfl

theorem statement_eq_of_refusal {error : Error} (refused : query.registry.preamble = .error error) :
    query.statement = .error error := by
  rw [statement, render, refused]
  rfl

/-- What comes of a statement that a transport is handed. -/
def outcomeOf : Except TransportError Text → Except Error Json
  | .error error => .error (.transport error)
  | .ok body => readReply body

/-- A finished statement is handed over once, and the reply to it decides the outcome. -/
theorem execute_of_statement {statement : Statement} (finished : query.statement = .ok statement)
    (transport : Transport) (parameters : Parameters) :
    query.execute transport parameters =
      ⟨[⟨statement, parameters⟩], outcomeOf (transport ⟨statement, parameters⟩)⟩ := by
  simp only [execute, finished]
  cases transport ⟨statement, parameters⟩ with
  | error error => rfl
  | ok body => rfl

/-- A statement that cannot be finished is never handed over. -/
theorem execute_of_fault {error : Error} (failed : query.statement = .error error)
    (transport : Transport) (parameters : Parameters) :
    query.execute transport parameters = ⟨[], .error error⟩ := by
  simp only [execute, failed]

/-! ## Shown and sent -/

/-- A finished query shows the text and the kind of its statement. -/
theorem shown_of_statement {statement : Statement} (finished : query.statement = .ok statement) :
    query.render = .ok statement.text ∧ query.kind = .ok statement.kind := by
  have told : query.kind = .ok statement.kind := by
    rw [kind, finished]
    rfl
  rw [Query.statement] at finished
  obtain ⟨text, rendered, classified⟩ := bind_eq_ok_iff.1 finished
  obtain ⟨_, _, rfl⟩ := map_eq_ok_iff.1 classified
  exact ⟨rendered, told⟩

/-- A query that cannot be finished shows why, at the latest when it is asked for its kind. -/
theorem shown_of_fault {error : Error} (failed : query.statement = .error error) :
    (query.render = .error error ∨ ∃ text, query.render = .ok text) ∧
      query.kind = .error error := by
  constructor
  · cases rendered : query.render with
    | error other =>
        rw [statement, rendered] at failed
        cases failed
        exact Or.inl rfl
    | ok text => exact Or.inr ⟨text, rfl⟩
  · rw [kind, failed]
    rfl

/-- A preamble that cannot be written is what a query shows, and nothing is sent. -/
theorem shown_of_refusal {error : Error} (refused : query.registry.preamble = .error error) :
    query.render = .error error ∧ query.kind = .error error ∧
      ∀ transport parameters, query.execute transport parameters = ⟨[], .error error⟩ := by
  have failed : query.statement = .error error := statement_eq_of_refusal refused
  refine ⟨?_, ?_, execute_of_fault failed⟩
  · rw [render, refused]
    rfl
  · rw [kind, failed]
    rfl

/-- A text without a kind is shown, and not sent. -/
theorem shown_of_unclassified {preamble : Text} {error : Error}
    (written : query.registry.preamble = .ok preamble)
    (untold : StatementKind.classify (preamble ++ query.text) = .error error) :
    query.render = .ok (preamble ++ query.text) ∧ query.kind = .error error ∧
      ∀ transport parameters, query.execute transport parameters = ⟨[], .error error⟩ := by
  have failed : query.statement = .error error := by
    rw [statement_eq_of_preamble written, untold]
    rfl
  refine ⟨?_, ?_, execute_of_fault failed⟩
  · rw [render, written]
    rfl
  · rw [kind, failed]
    rfl

/-- A text with a kind is what a query shows, and what it sends. -/
theorem shown_of_classified {preamble : Text} {kind : StatementKind}
    (written : query.registry.preamble = .ok preamble)
    (told : StatementKind.classify (preamble ++ query.text) = .ok kind) :
    query.render = .ok (preamble ++ query.text) ∧ query.kind = .ok kind ∧
      ∀ transport parameters, query.execute transport parameters =
        let delivery : Delivery := ⟨⟨preamble ++ query.text, kind⟩, parameters⟩
        ⟨[delivery], outcomeOf (transport delivery)⟩ := by
  have finished : query.statement = .ok ⟨preamble ++ query.text, kind⟩ := by
    rw [statement_eq_of_preamble written, told]
    rfl
  refine ⟨?_, ?_, execute_of_statement finished⟩
  · rw [render, written]
    rfl
  · rw [Query.kind, finished]
    rfl

end SparqlRequest.Query
