/-
# Proofs.Term.Admitted -- what the constructors let through

`Term.Admitted` is the invariant that every way to make a term establishes
(`admitted_of_build`): a full URI stays between its angle brackets, the halves of a
prefixed name are a label and a local name, a language tag is one, and the name of a
namespace is determined by the form of the IRI.  The last part makes the form all that
there is to an IRI (`Iri.eq_of_form`), and the invariant is all that the constructor asks
for (`Iri.create_source`).  Native values pass no check, and their datatypes satisfy the
invariant all the same.
-/
import SparqlRequest.Proofs.Outcome
import SparqlRequest.Term.Basic

set_option autoImplicit false

namespace SparqlRequest

namespace Iri

/-- The namespace that a form shows. -/
def Form.namespaceName : Form → Option Text
  | .full uri => if Text.startsWith Vocabulary.xsd uri then some Vocabulary.xsdLabel else none
  | .prefixed label _ => some label

/-- The characters of a form keep it together. -/
def Form.Admitted : Form → Prop
  | .full uri => ∀ c ∈ uri, Lexical.breaksOut c = false
  | .prefixed label name => Lexical.isLabel label = true ∧ Lexical.isLocalName name = true

/-- The form keeps together, and the namespace is the one that it shows. -/
structure Admitted (iri : Iri) : Prop where
  form : iri.form.Admitted
  namespaceName : iri.namespaceName = iri.form.namespaceName

/-- An IRI is determined by the way it is written. -/
theorem eq_of_form {a b : Iri} (first : a.Admitted) (second : b.Admitted)
    (same : a.form = b.form) : a = b := by
  obtain ⟨form, name⟩ := a
  obtain ⟨form', name'⟩ := b
  obtain rfl : form = form' := same
  obtain rfl : name = name' := first.namespaceName.trans second.namespaceName.symm
  rfl

theorem admitted_of_ofUri {uri : Text} {iri : Iri} (made : ofUri uri = .ok iri) :
    iri.Admitted := by
  obtain ⟨passed, checked, built⟩ := bind_eq_ok_iff.1 made
  obtain ⟨safe, rfl⟩ := Lexical.checkUri_eq_ok_iff.1 checked
  cases built
  exact ⟨safe, rfl⟩

theorem create_ofName (label name : Text) : create (.ofName label name) = ofName label name := rfl

theorem ofName_eq_ok_iff {label name : Text} {iri : Iri} :
    ofName label name = .ok iri ↔
      Lexical.isLabel label = true ∧ Lexical.isLocalName name = true ∧
        iri = ⟨.prefixed label name, some label⟩ := by
  cases label? : Lexical.isLabel label with
  | false => simp [ofName, label?]
  | true =>
      cases local? : Lexical.isLocalName name with
      | false => simp [ofName, label?, local?]
      | true => simp [ofName, label?, local?, @eq_comm _ iri]

theorem admitted_of_ofName {label name : Text} {iri : Iri} (made : ofName label name = .ok iri) :
    iri.Admitted := by
  obtain ⟨isLabel, isLocalName, rfl⟩ := ofName_eq_ok_iff.1 made
  exact ⟨⟨isLabel, isLocalName⟩, rfl⟩

/-- Every IRI that a source makes keeps together. -/
theorem admitted_of_create {source : IriSource} {iri : Iri} (made : create source = .ok iri) :
    iri.Admitted := by
  cases source with
  | uri text => exact admitted_of_ofUri made
  | mapping map =>
      simp only [create] at made
      split at made
      · exact admitted_of_ofName made
      · cases made

/-- An admitted IRI is what its own source makes. -/
theorem create_source {iri : Iri} (admitted : iri.Admitted) : create iri.source = .ok iri := by
  have kept := admitted.form
  have known := admitted.namespaceName
  obtain ⟨form, tag⟩ := iri
  obtain rfl : tag = form.namespaceName := known
  cases form with
  | full uri =>
      have checked : Lexical.checkUri uri = .ok uri := Lexical.checkUri_eq_ok_iff.2 ⟨kept, rfl⟩
      show ofUri uri = _
      rw [ofUri, checked]
      rfl
  | prefixed label name =>
      obtain ⟨isLabel, isLocalName⟩ := kept
      exact ofName_eq_ok_iff.2 ⟨isLabel, isLocalName, rfl⟩

theorem admitted_xsd (type : Lexical.BareType) : (xsd type).Admitted where
  form := by
    have safe : ∀ c ∈ Vocabulary.xsd ++ type.localName, Lexical.breaksOut c = false := by
      cases type <;> exact (Lexical.checkUri_eq_ok_iff.1 rfl).1
    exact safe
  namespaceName := by
    cases type <;> rfl

end Iri

/-! ## Literals -/

namespace Literal

theorem create_eq_ok_iff {value : Text} {literal : SparqlRequest.Literal} :
    create value = .ok literal ↔ '\x00' ∉ value ∧ literal = ⟨value, none⟩ := by
  rw [create, bind_eq_ok_iff]
  constructor
  · rintro ⟨passed, checked, built⟩
    obtain ⟨safe, rfl⟩ := Lexical.checkString_eq_ok_iff.1 checked
    exact ⟨safe, (Except.ok.inj built).symm⟩
  · rintro ⟨safe, rfl⟩
    exact ⟨value, Lexical.checkString_eq_ok_iff.2 ⟨safe, rfl⟩, rfl⟩

/-- A typed literal is made of a value without NUL and a datatype that can be made. -/
theorem typed_eq_ok_iff {value : Text} {source : IriSource} {literal : SparqlRequest.Literal} :
    typed value source = .ok literal ↔
      '\x00' ∉ value ∧
        ∃ datatype, Iri.create source = .ok datatype ∧ literal = ⟨value, some datatype⟩ := by
  rw [typed]
  cases Iri.create source with
  | error error => simp
  | ok datatype =>
      simp only [bind_eq_ok_iff, Lexical.checkString_eq_ok_iff, Except.ok.injEq, exists_eq_left']
      constructor
      · rintro ⟨passed, ⟨safe, rfl⟩, built⟩
        exact ⟨safe, (Except.ok.inj built).symm⟩
      · rintro ⟨safe, rfl⟩
        exact ⟨value, ⟨safe, rfl⟩, rfl⟩

end Literal

theorem StringLiteral.create_eq_ok_iff {value : Text} {language : Option Text}
    {literal : StringLiteral} :
    StringLiteral.create value language = .ok literal ↔
      '\x00' ∉ value ∧ (∀ tag ∈ language, Lexical.isLanguageTag tag = true) ∧
        literal = ⟨value, language⟩ := by
  rw [StringLiteral.create, bind_eq_ok_iff]
  simp only [Lexical.checkString_eq_ok_iff]
  cases language with
  | none =>
      constructor
      · rintro ⟨passed, ⟨safe, rfl⟩, built⟩
        exact ⟨safe, nofun, (Except.ok.inj built).symm⟩
      · rintro ⟨safe, _, rfl⟩
        exact ⟨value, ⟨safe, rfl⟩, rfl⟩
  | some tag =>
      by_cases isTag : Lexical.isLanguageTag tag = true
      · simp only [if_pos isTag]
        constructor
        · rintro ⟨passed, ⟨safe, rfl⟩, built⟩
          refine ⟨safe, ?_, (Except.ok.inj built).symm⟩
          rintro tag' ⟨⟩
          exact isTag
        · rintro ⟨safe, _, rfl⟩
          exact ⟨value, ⟨safe, rfl⟩, rfl⟩
      · simp only [if_neg isTag]
        constructor
        · rintro ⟨passed, _, built⟩
          cases built
        · rintro ⟨_, areTags, _⟩
          exact absurd (areTags tag rfl) isTag

namespace Term

/-- What holds of every term that can be made. -/
def Admitted : Term → Prop
  | .iri name => name.Admitted
  | .literal scalar => ∀ datatype, scalar.datatype = some datatype → datatype.Admitted
  | .string text => ∀ tag, text.language = some tag → Lexical.isLanguageTag tag = true

theorem admitted_of_create {value : Text} {literal : SparqlRequest.Literal}
    (made : Literal.create value = .ok literal) : (Term.literal literal).Admitted := by
  obtain ⟨_, rfl⟩ := Literal.create_eq_ok_iff.1 made
  intro datatype absent
  cases absent

theorem admitted_of_typed {value : Text} {source : IriSource} {literal : SparqlRequest.Literal}
    (made : Literal.typed value source = .ok literal) : (Term.literal literal).Admitted := by
  obtain ⟨_, iri, isIri, rfl⟩ := Literal.typed_eq_ok_iff.1 made
  intro datatype same
  cases same
  exact Iri.admitted_of_create isIri

theorem admitted_of_string {value : Text} {language : Option Text} {literal : StringLiteral}
    (made : StringLiteral.create value language = .ok literal) :
    (Term.string literal).Admitted := by
  obtain ⟨_, areTags, rfl⟩ := StringLiteral.create_eq_ok_iff.1 made
  exact areTags

/-- Every term that can be made is admitted. -/
theorem admitted_of_build {recipe : Recipe} {term : Term} (made : recipe.build = .ok term) :
    term.Admitted := by
  cases recipe with
  | iri source =>
      obtain ⟨iri, isIri, rfl⟩ := map_eq_ok_iff.1 made
      exact Iri.admitted_of_create isIri
  | literal value datatype =>
      cases datatype with
      | none =>
          obtain ⟨literal, isLiteral, rfl⟩ := map_eq_ok_iff.1 made
          exact admitted_of_create isLiteral
      | some source =>
          obtain ⟨literal, isLiteral, rfl⟩ := map_eq_ok_iff.1 made
          exact admitted_of_typed isLiteral
  | string value language =>
      obtain ⟨literal, isString, rfl⟩ := map_eq_ok_iff.1 made
      exact admitted_of_string isString
  | native value =>
      cases made
      intro datatype same
      cases same
      exact Iri.admitted_xsd value.type

end Term

end SparqlRequest
