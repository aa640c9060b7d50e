/-
# Proofs.Term.Spelling -- IRIs are canonical, and a datatype has two spellings

The source that describes an IRI makes that IRI again, with the name of its namespace
(`Iri.create_source`).  That name is kept beside the form and computed from it in three
places, so the round trip rests on the invariant that ties the two together.

A datatype of XML Schema is spelled as a prefixed name under `xsd`, or in full.  A name that
can stand behind the colon never breaks out of angle brackets, so every datatype with the
first spelling has the second (`Iri.create_longXsd`), and what is read off the one is read
off the other.  Literals typed by them are written alike: both bare and the same, or both
quoted with their own spelling behind the value (`Literal.writtenAlike_of_bareType?_eq`).
Only the two spellings of the four bare types are recognised as such
(`Iri.bareType?_eq_some_iff`).
-/
import SparqlRequest.Proofs.Term.Admitted

set_option autoImplicit false

namespace SparqlRequest

namespace Lexical

/-- What breaks out of angle brackets is forbidden in a local name. -/
theorem breaksOut_of_isLocalName {name : Text} (localName : isLocalName name = true) :
    ∀ c ∈ name, breaksOut c = false := by
  intro c member
  have allowed := List.all_eq_true.1 localName c member
  cases breaks : breaksOut c with
  | false => rfl
  | true =>
      simp only [breaksOut, Bool.or_eq_true, decide_eq_true_eq] at breaks
      rcases breaks with (rfl | rfl) | rfl <;> exact absurd allowed (by decide)

theorem BareType.ofLocalName?_eq_some_iff {name : Text} {type : BareType} :
    BareType.ofLocalName? name = some type ↔ name = type.localName := by
  constructor
  · intro found
    have same := List.find?_some found
    exact (of_decide_eq_true same).symm
  · rintro rfl
    cases type <;> decide

end Lexical

open Lexical

namespace Iri

/-! ## IRIs that there are -/

/-- The IRIs that there are: those that a source makes, and the datatypes of native values. -/
inductive Made : Iri → Prop
  | created (source : IriSource) {iri : Iri} (made : create source = .ok iri) : Made iri
  | native (value : Native) {literal : SparqlRequest.Literal} {iri : Iri}
      (made : Term.ofNative value = .literal literal) (typed : literal.datatype = some iri) :
      Made iri

/-- Every IRI that there is keeps together. -/
theorem Made.admitted {iri : Iri} (made : Made iri) : iri.Admitted := by
  cases made with
  | created source made => exact admitted_of_create made
  | native value made typed =>
      cases made
      cases typed
      exact admitted_xsd _

/-! ## The two spellings of a datatype -/

def shortXsd (name : Text) : Iri :=
  ⟨.prefixed Vocabulary.xsdLabel name, some Vocabulary.xsdLabel⟩

def longXsd (name : Text) : Iri :=
  ⟨.full (Vocabulary.xsd ++ name), some Vocabulary.xsdLabel⟩

/-- The name is the one behind the namespace of XML Schema, and tells the bare type. -/
structure Names (iri : Iri) (name : Text) : Prop where
  namespaceName : iri.namespaceName = some Vocabulary.xsdLabel
  localName? : iri.localName? = some name
  bareType? : iri.bareType? = BareType.ofLocalName? name

theorem names_of_localName? {iri : Iri} {name : Text}
    (known : iri.namespaceName = some Vocabulary.xsdLabel) (named : iri.localName? = some name) :
    iri.Names name where
  namespaceName := known
  localName? := named
  bareType? := by rw [bareType?, if_pos known, named, Option.bind_some]

theorem names_shortXsd (name : Text) : (shortXsd name).Names name :=
  names_of_localName? rfl rfl

/-- The full spelling names the datatype, like the prefixed one. -/
theorem names_longXsd (name : Text) : (longXsd name).Names name :=
  names_of_localName? rfl (Text.after?_eq_some_iff.2 rfl)

theorem admitted_longXsd {name : Text} (localName : isLocalName name = true) :
    (longXsd name).Admitted where
  form := by
    have namespaceSafe : ∀ c ∈ Vocabulary.xsd, breaksOut c = false :=
      (checkUri_eq_ok_iff.1 rfl).1
    exact List.forall_mem_append.2 ⟨namespaceSafe, breaksOut_of_isLocalName localName⟩
  namespaceName := by
    have begins : Text.startsWith Vocabulary.xsd (Vocabulary.xsd ++ name) = true := by
      rw [Text.startsWith, Text.after?_eq_some_iff.2 rfl, Option.isSome_some]
    have shown : (Form.full (Vocabulary.xsd ++ name)).namespaceName =
        some Vocabulary.xsdLabel := by
      rw [Form.namespaceName, if_pos begins]
    exact shown.symm

/-- Under the label of XML Schema a name is refused for its characters alone. -/
theorem create_shortXsd_iff {name : Text} {iri : Iri} :
    create (.ofName Vocabulary.xsdLabel name) = .ok iri ↔
      isLocalName name = true ∧ iri = shortXsd name := by
  have isLabel : isLabel Vocabulary.xsdLabel = true := by decide
  rw [create_ofName, ofName_eq_ok_iff, and_iff_right isLabel, shortXsd]

/-- **What can stand behind the colon can stand between angle brackets.** -/
theorem create_longXsd {name : Text} (localName : isLocalName name = true) :
    create (.uri (Vocabulary.xsd ++ name)) = .ok (longXsd name) :=
  create_source (admitted_longXsd localName)

/-! ## The bare types -/

theorem bareType?_full (uri : Text) :
    bareType? ⟨.full uri, (Form.full uri).namespaceName⟩ =
      (Text.after? Vocabulary.xsd uri).bind BareType.ofLocalName? := by
  cases found : Text.after? Vocabulary.xsd uri with
  | none => simp [bareType?, Form.namespaceName, Text.startsWith, found]
  | some name => simp [bareType?, localName?, Form.namespaceName, Text.startsWith, found]

theorem bareType?_prefixed (label name : Text) :
    bareType? ⟨.prefixed label name, some label⟩ =
      if label = Vocabulary.xsdLabel then BareType.ofLocalName? name else none := by
  simp [bareType?, localName?]

/-- **Only the two spellings of a bare type are recognised.** -/
theorem bareType?_eq_some_iff {iri : Iri} (admitted : iri.Admitted) {type : BareType} :
    iri.bareType? = some type ↔
      iri.form = .prefixed Vocabulary.xsdLabel type.localName ∨
        iri.form = .full (Vocabulary.xsd ++ type.localName) := by
  have known := admitted.namespaceName
  obtain ⟨form, tag⟩ := iri
  obtain rfl : tag = form.namespaceName := known
  cases form with
  | full uri =>
      rw [bareType?_full, Option.bind_eq_some_iff]
      simp only [Text.after?_eq_some_iff, BareType.ofLocalName?_eq_some_iff, reduceCtorEq,
        false_or, Form.full.injEq]
      constructor
      · rintro ⟨name, rfl, rfl⟩
        rfl
      · intro same
        exact ⟨_, same, rfl⟩
  | prefixed label name =>
      rw [Form.namespaceName, bareType?_prefixed, Option.ite_none_right_eq_some]
      simp only [BareType.ofLocalName?_eq_some_iff, reduceCtorEq, or_false,
        Form.prefixed.injEq]

end Iri

/-! ## Literals under both spellings -/

namespace Literal

/-- Both literals are written bare and the same, or both are quoted and differ at most in the
datatype behind the value. -/
def WrittenAlike (a b : SparqlRequest.Literal) : Prop :=
  (∃ bare, a.bare? = some bare ∧ b.bare? = some bare ∧ a.format = bare ∧ b.format = bare) ∨
    ∃ value first second, a = ⟨value, some first⟩ ∧ b = ⟨value, some second⟩ ∧
      a.bare? = none ∧ b.bare? = none ∧
      a.format = quote value ++ "^^".toList ++ first.format ∧
      b.format = quote value ++ "^^".toList ++ second.format

theorem format_of_bare {literal : SparqlRequest.Literal} {bare : Text}
    (found : literal.bare? = some bare) : literal.format = bare := by
  rw [format, found]

theorem format_of_not_bare {value : Text} {datatype : Iri}
    (absent : bare? ⟨value, some datatype⟩ = none) :
    format ⟨value, some datatype⟩ = quote value ++ "^^".toList ++ datatype.format := by
  rw [format, absent, List.append_assoc]
  rfl

/-- Of a datatype, only its bare type decides how a value is written before it. -/
theorem writtenAlike_of_bareType?_eq {first second : Iri}
    (same : first.bareType? = second.bareType?) (value : Text) :
    WrittenAlike ⟨value, some first⟩ ⟨value, some second⟩ := by
  have sameBare : bare? ⟨value, some second⟩ = bare? ⟨value, some first⟩ := by
    rw [bare?, bare?, Option.bind_some, Option.bind_some, same]
  cases found : bare? ⟨value, some first⟩ with
  | some bare =>
      rw [found] at sameBare
      exact Or.inl ⟨bare, found, sameBare, format_of_bare found, format_of_bare sameBare⟩
  | none =>
      rw [found] at sameBare
      exact Or.inr ⟨value, first, second, rfl, rfl, found, sameBare, format_of_not_bare found,
        format_of_not_bare sameBare⟩

end Literal

namespace Iri

/-- **IRIs are canonical, and the spellings of a datatype behave alike.**  The source that
describes an IRI makes it again.  A name that is accepted under the label of XML Schema is
accepted in full as well; both IRIs have the same namespace, local name and bare type, and any
value that a literal can hold is typed by both and written alike under them.  No IRI but the two
spellings of a bare type is recognised as one. -/
theorem spelled_alike :
    (∀ iri, Made iri → create iri.source = .ok iri) ∧
      (∀ name short, create (.ofName Vocabulary.xsdLabel name) = .ok short →
        ∃ long, create (.uri (Vocabulary.xsd ++ name)) = .ok long ∧
          short.Names name ∧ long.Names name ∧
          ∀ value, '\x00' ∉ value →
            Literal.typed value (.ofName Vocabulary.xsdLabel name) = .ok ⟨value, some short⟩ ∧
              Literal.typed value (.uri (Vocabulary.xsd ++ name)) = .ok ⟨value, some long⟩ ∧
              Literal.WrittenAlike ⟨value, some short⟩ ⟨value, some long⟩) ∧
      (∀ iri type, Made iri →
        (iri.bareType? = some type ↔
          iri.form = .prefixed Vocabulary.xsdLabel type.localName ∨
            iri.form = .full (Vocabulary.xsd ++ type.localName))) := by
  refine ⟨fun iri made => create_source made.admitted, ?_, ?_⟩
  · intro name short made
    obtain ⟨localName, rfl⟩ := create_shortXsd_iff.1 made
    have madeLong := create_longXsd localName
    have names := names_shortXsd name
    have namesLong := names_longXsd name
    have sameType : (shortXsd name).bareType? = (longXsd name).bareType? :=
      names.bareType?.trans namesLong.bareType?.symm
    refine ⟨longXsd name, madeLong, names, namesLong, fun value safe => ?_⟩
    exact ⟨Literal.typed_eq_ok_iff.2 ⟨safe, _, made, rfl⟩,
      Literal.typed_eq_ok_iff.2 ⟨safe, _, madeLong, rfl⟩,
      Literal.writtenAlike_of_bareType?_eq sameType value⟩
  · intro iri type made
    exact bareType?_eq_some_iff made.admitted

/-- A double under both spellings, and a name that only looks like a datatype: the label is
another one. -/
theorem spelled_alike_double :
    let short := shortXsd "double".toList
    let other : Iri := ⟨.prefixed "xs".toList "double".toList, some "xs".toList⟩
    create (longXsd "double".toList).source = .ok (longXsd "double".toList) ∧
      (∃ long, create (.uri (Vocabulary.xsd ++ "double".toList)) = .ok long ∧
        Literal.WrittenAlike ⟨"1".toList, some short⟩ ⟨"1".toList, some long⟩ ∧
        Literal.WrittenAlike ⟨"one".toList, some short⟩ ⟨"one".toList, some long⟩) ∧
      other.bareType? ≠ some .double := by
  intro short other
  have madeLong : Made (longXsd "double".toList) := .native (.double .notANumber) rfl rfl
  have madeShort : create (.ofName Vocabulary.xsdLabel "double".toList) = .ok short := rfl
  have madeOther : Made other := .created (.ofName "xs".toList "double".toList) rfl
  obtain ⟨long, isLong, _, _, typed⟩ := spelled_alike.2.1 _ short madeShort
  refine ⟨spelled_alike.1 _ madeLong, ⟨long, isLong, ?_, ?_⟩, ?_⟩
  · exact (typed "1".toList (by decide)).2.2
  · exact (typed "one".toList (by decide)).2.2
  · rw [Ne, spelled_alike.2.2 other .double madeOther]
    decide

end Iri

end SparqlRequest
