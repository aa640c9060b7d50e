/-
# Proofs.Query.Kind -- bindings do not change what kind of statement is sent

Bindings are unrestricted: a replacement can hold keywords, clauses, brackets and further
placeholders.  What they cannot do is reach in front of the first question mark.  So a
template whose keyword stands before every question mark keeps its kind through any
run of bindings, provided that the keyword begins no clause, and behind a preamble with
usable URIs that is the kind that is sent.

The invariant of a run is `HeldBy`: the text still begins with the front up to the
keyword, and what follows does not go on with it.
-/
import SparqlRequest.Proofs.Query.Execution
import SparqlRequest.Proofs.Query.Placeholder
import SparqlRequest.Proofs.Registry.Transparent
import SparqlRequest.Proofs.Statement.Stable

set_option autoImplicit false

namespace SparqlRequest

/-- A call that replaces a placeholder. -/
inductive Binding where
  | text (name replacement : Text)
  | term (name : Text) (value : Term)

namespace Query

/-! ## Runs of bindings -/

def after (query : Query) : Binding → Query
  | .text name replacement => query.bind name replacement
  | .term name value => query.bindTerm name value

def afterAll (query : Query) (bindings : List Binding) : Query := bindings.foldl after query

theorem after_text (query : Query) (binding : Binding) :
    ∃ name replacement,
      (query.after binding).text = Placeholder.substitute name replacement query.text := by
  cases binding with
  | text name replacement => exact ⟨name, replacement, rfl⟩
  | term name value => exact ⟨name, value.format, rfl⟩

theorem after_registry (query : Query) (binding : Binding) :
    (query.after binding).registry = query.registry := by
  cases binding with
  | text name replacement => rfl
  | term name value => rfl

theorem afterAll_registry (query : Query) (bindings : List Binding) :
    (query.afterAll bindings).registry = query.registry := by
  induction bindings generalizing query with
  | nil => rfl
  | cons binding bindings ih =>
      exact (ih (query.after binding)).trans (query.after_registry binding)

/-! ## The invariant of a run -/

/-- The text begins with `front`, and what follows goes on neither with a word nor with
a placeholder. -/
def HeldBy (front text : Text) : Prop :=
  ∃ rest, text = front ++ rest ∧ Text.leadingWord rest = [] ∧ rest.head? ≠ some '?'

variable {front : Text}

/-- A front without question marks is still held when what follows it is substituted in. -/
theorem HeldBy.substitute {text : Text} (unmarked : '?' ∉ front) (held : HeldBy front text)
    (name replacement : Text) : HeldBy front (Placeholder.substitute name replacement text) := by
  obtain ⟨rest, rfl, apart, noMark⟩ := held
  refine ⟨Placeholder.substitute name replacement rest,
    Placeholder.substitute_append unmarked rest, ?_⟩
  cases rest with
  | nil =>
      rw [Placeholder.substitute_nil]
      exact ⟨rfl, noMark⟩
  | cons c rest =>
      -- The character behind the front is no question mark, so it is copied too.
      have plain : '?' ∉ [c] := by
        intro member
        rw [List.mem_singleton] at member
        exact noMark (by rw [member, List.head?_cons])
      have copied : Placeholder.substitute name replacement (c :: rest) =
          c :: Placeholder.substitute name replacement rest :=
        Placeholder.substitute_append plain rest
      rw [copied]
      have noWord : ¬ Text.isWord c = true := by
        intro word
        rw [Text.leadingWord, List.takeWhile_cons_of_pos word] at apart
        cases apart
      exact ⟨List.takeWhile_cons_of_neg noWord, noMark⟩

theorem HeldBy.afterAll (unmarked : '?' ∉ front) (bindings : List Binding) {query : Query}
    (held : HeldBy front query.text) : HeldBy front (query.afterAll bindings).text := by
  induction bindings generalizing query with
  | nil => exact held
  | cons binding bindings ih =>
      apply ih
      obtain ⟨name, replacement, same⟩ := query.after_text binding
      rw [same]
      exact held.substitute unmarked name replacement

/-- A template is held by its front up to the keyword, and whatever is held by that front
has the same keyword. -/
theorem heldBy_template {template before word behind : Text}
    (found : StatementKind.keywordParts? template = some (before, word, behind))
    (noMark : behind.head? ≠ some '?') : HeldBy (before ++ word) template := by
  obtain ⟨split, _, _, apart⟩ := StatementKind.keywordParts?_eq_some found
  exact ⟨behind, by rw [split, List.append_assoc], apart, noMark⟩

theorem HeldBy.keyword? {template before word behind text : Text}
    (held : HeldBy (before ++ word) text)
    (found : StatementKind.keywordParts? template = some (before, word, behind))
    (closed : StatementKind.afterKeyword? word = none) :
    StatementKind.keyword? text = StatementKind.keyword? template := by
  obtain ⟨split, placed, there, _⟩ := StatementKind.keywordParts?_eq_some found
  obtain ⟨rest, rfl, apart, _⟩ := held
  have closedThere : StatementKind.afterKeyword? (Text.leadingWord (word ++ behind)) = none := by
    rw [there, closed]
  have stable := StatementKind.keyword?_stable placed split closedThere apart
  rw [there, ← List.append_assoc] at stable
  rw [stable, StatementKind.keyword?_eq_parts, found, Option.map_some]

/-! ## What is sent -/

theorem statement_of_classify {query : Query} {kind : StatementKind}
    (plain : ∀ entry ∈ query.registry.prefixes, '<' ∉ entry.1)
    (usable : ∀ uri ∈ query.registry.uris, uri ≠ [] ∧ ∀ c ∈ uri, Lexical.breaksOut c = false)
    (told : StatementKind.classify query.text = .ok kind) :
    query.statement = .ok ⟨query.registry.declarations ++ query.text, kind⟩ := by
  have safe : ∀ uri ∈ query.registry.uris, ∀ c ∈ uri, Lexical.breaksOut c = false :=
    fun uri member => (usable uri member).2
  have written : query.registry.preamble = .ok query.registry.declarations :=
    Registry.preamble_eq_ok_iff.2 ⟨safe, rfl⟩
  have behind : StatementKind.classify (query.registry.declarations ++ query.text) = .ok kind := by
    have clear := Registry.transparent_declarations plain safe fun uri member =>
      (usable uri member).1
    exact (clear.sameVerdict query.text).classify_eq_ok_iff.2 told
  rw [statement_eq_of_preamble written, behind]
  rfl

theorem sent_of_statement {query : Query} {statement : Statement}
    (finished : query.statement = .ok statement) (transport : Transport)
    (parameters : Parameters) :
    (query.execute transport parameters).sent = [⟨statement, parameters⟩] := by
  rw [execute_of_statement finished]

/-- **Bindings behind the keyword never turn a query into an update or back**, neither in
the working text nor in what is sent. -/
theorem kind_afterAll {template before word behind : Text} {kind : StatementKind}
    (told : StatementKind.classify template = .ok kind)
    (found : StatementKind.keywordParts? template = some (before, word, behind))
    (unmarked : '?' ∉ before ++ word) (closed : StatementKind.afterKeyword? word = none)
    (noMark : behind.head? ≠ some '?') (registry : Registry) (bindings : List Binding) :
    let query := (create template registry).afterAll bindings
    StatementKind.classify query.text = .ok kind ∧
      ((∀ entry ∈ registry.prefixes, '<' ∉ entry.1) →
        (∀ uri ∈ registry.uris, uri ≠ [] ∧ ∀ c ∈ uri, Lexical.breaksOut c = false) →
        query.kind = .ok kind ∧
          ∀ transport parameters,
            (query.execute transport parameters).sent.map (fun sent => sent.statement.kind) =
              [kind]) := by
  intro query
  have held : HeldBy (before ++ word) query.text :=
    HeldBy.afterAll unmarked bindings (heldBy_template found noMark)
  have kept : StatementKind.classify query.text = .ok kind := by
    rw [StatementKind.classify_eq_ok_iff] at told ⊢
    rw [held.keyword? found closed, told]
  refine ⟨kept, fun plain usable => ?_⟩
  have sameRegistry : query.registry = registry := afterAll_registry _ bindings
  have finished : query.statement = .ok ⟨query.registry.declarations ++ query.text, kind⟩ := by
    apply statement_of_classify _ _ kept
    · rwa [sameRegistry]
    · rwa [sameRegistry]
  constructor
  · rw [Query.kind, finished]
    rfl
  · intro transport parameters
    rw [sent_of_statement finished]
    rfl

/-- A replacement full of clauses and updates leaves a query a query. -/
theorem kind_afterAll_select :
    let template := "SELECT ?s \x7b ?s ?p ?o \x7d".toList
    let query := (create template ⟨some "http://a/".toList, []⟩).afterAll
      [.text "s".toList "; DROP ALL ; PREFIX ?p <".toList, .text "p".toList "> CLEAR".toList]
    StatementKind.classify query.text = .ok .query ∧ query.kind = .ok .query := by
  intro template query
  have told : StatementKind.classify "SELECT ?s \x7b ?s ?p ?o \x7d".toList = .ok .query := rfl
  have found : StatementKind.keywordParts? "SELECT ?s \x7b ?s ?p ?o \x7d".toList =
      some ([], "SELECT".toList, " ?s \x7b ?s ?p ?o \x7d".toList) := rfl
  have usable : ∀ uri ∈ Registry.uris ⟨some "http://a/".toList, []⟩,
      uri ≠ [] ∧ ∀ c ∈ uri, Lexical.breaksOut c = false :=
    List.forall_mem_singleton.2 ⟨by decide, (Lexical.checkUri_eq_ok_iff.1 rfl).1⟩
  have held := kind_afterAll told found (by decide) (by decide) (by decide)
    ⟨some "http://a/".toList, []⟩
    [.text "s".toList "; DROP ALL ; PREFIX ?p <".toList, .text "p".toList "> CLEAR".toList]
  exact ⟨held.1, (held.2 (List.forall_mem_nil _) usable).1⟩

end Query

end SparqlRequest
