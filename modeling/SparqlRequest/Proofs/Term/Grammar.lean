/-
# Proofs.Term.Grammar -- what names and language tags terms are made with

The constructors of string literals and of prefixed names judge one thing after another, and the
first fault is the one that is told: a string literal its value and then its tag
(`StringLiteral.create_eq_error_iff`), a prefixed name its label and then its local name
(`Iri.ofName_eq_error_iff`).  What they judge by are the grammars of language tags, labels
and local names, exactly (`Term.names_by_grammar`).
-/
import SparqlRequest.Proofs.Lexical.Name
import SparqlRequest.Proofs.Term.Admitted

set_option autoImplicit false

namespace SparqlRequest

open Lexical

theorem StringLiteral.create_eq_error_iff {value : Text} {language : Option Text} {error : Error} :
    StringLiteral.create value language = .error error ↔
      ('\x00' ∈ value ∧ error = .nulInLiteral) ∨
        ('\x00' ∉ value ∧ ∃ tag, language = some tag ∧ isLanguageTag tag = false ∧
          error = .invalidLanguageTag tag) := by
  rw [StringLiteral.create]
  by_cases nul : '\x00' ∈ value
  · have refused : checkString value = .error .nulInLiteral := by simp [checkString, nul]
    rw [refused]
    simp [bind, Except.bind, nul, @eq_comm _ error]
  · have passed : checkString value = .ok value := checkString_eq_ok_iff.2 ⟨nul, rfl⟩
    rw [passed]
    cases language with
    | none => simp [bind, Except.bind, pure, Except.pure, nul]
    | some tag =>
        cases isTag : isLanguageTag tag with
        | false => simp [bind, Except.bind, nul, isTag, @eq_comm _ error]
        | true => simp [bind, Except.bind, pure, Except.pure, nul, isTag]

namespace Iri

/-- The label is judged first: a local name is refused only behind a label that passed. -/
theorem ofName_eq_error_iff {label name : Text} {error : Error} :
    ofName label name = .error error ↔
      (isLabel label = false ∧ error = .invalidIri (.badLabel label)) ∨
        (isLabel label = true ∧ isLocalName name = false ∧
          error = .invalidIri (.badLocalName name)) := by
  cases label? : isLabel label with
  | false => simp [ofName, label?, @eq_comm _ error]
  | true =>
      cases local? : isLocalName name with
      | false => simp [ofName, label?, local?, @eq_comm _ error]
      | true => simp [ofName, label?, local?]

end Iri

/-- **Language tags, labels and local names are taken exactly as their grammars say.**  A string
literal with a tag fails for a NUL in its value and then for its tag, a prefixed name for its
label and then for its local name, and for nothing else. -/
theorem Term.names_by_grammar :
    (∀ tag, isLanguageTag tag = true ↔ TagGrammar tag) ∧
      (∀ value tag,
        (∀ literal, StringLiteral.create value (some tag) = .ok literal ↔
          '\x00' ∉ value ∧ TagGrammar tag ∧ literal = ⟨value, some tag⟩) ∧
        ∀ error, StringLiteral.create value (some tag) = .error error ↔
          ('\x00' ∈ value ∧ error = .nulInLiteral) ∨
            ('\x00' ∉ value ∧ ¬ TagGrammar tag ∧ error = .invalidLanguageTag tag)) ∧
      ∀ label name,
        (∀ iri, Iri.create (.ofName label name) = .ok iri ↔
          LabelGrammar label ∧ LocalNameGrammar name ∧
            iri = ⟨.prefixed label name, some label⟩) ∧
        ∀ error, Iri.create (.ofName label name) = .error error ↔
          (¬ LabelGrammar label ∧ error = .invalidIri (.badLabel label)) ∨
            (LabelGrammar label ∧ ¬ LocalNameGrammar name ∧
              error = .invalidIri (.badLocalName name)) := by
  refine ⟨fun tag => isLanguageTag_iff, fun value tag => ⟨?_, ?_⟩, fun label name => ⟨?_, ?_⟩⟩
  · intro literal
    simp [StringLiteral.create_eq_ok_iff, isLanguageTag_iff]
  · intro error
    simp [StringLiteral.create_eq_error_iff, ← isLanguageTag_iff]
  · intro iri
    rw [Iri.create_ofName, Iri.ofName_eq_ok_iff, isLabel_iff_grammar, isLocalName_iff_grammar]
  · intro error
    rw [Iri.create_ofName, Iri.ofName_eq_error_iff, ← isLabel_iff_grammar,
      ← isLocalName_iff_grammar, Bool.not_eq_true, Bool.not_eq_true]

end SparqlRequest
