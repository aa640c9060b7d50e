/-
# Proofs.Term.Reading -- the text of a term has one reading

A binding puts the text of a term and one space into a statement.  The text shows three
kinds of things: an IRI, a bare value, or a quoted value with a suffix, which is empty, a
datatype, or a language tag (`Shown`).  In front of a space every one of them is told apart
from the others and from what follows it (`Shown.text_append_inj`).

What a term shows is less than the term in two places, and `Alike` names them: a literal
without a datatype and a string literal without a language tag show the same, and bare
values show neither the spelling of their datatype nor whether a double came with its
exponent.  Terms are alike exactly when they show the same (`shown_eq_iff_alike`).
-/
import SparqlRequest.Proofs.Lexical.BareType
import SparqlRequest.Proofs.Lexical.Name
import SparqlRequest.Proofs.Lexical.StringLiteral
import SparqlRequest.Proofs.Term.Admitted

set_option autoImplicit false

namespace SparqlRequest

/-! ## IRIs -/

namespace Iri

theorem space_not_mem_prefixed {label name : Text}
    (admitted : (Form.prefixed label name).Admitted) : ' ' ∉ label ++ ':' :: name := by
  intro member
  rcases List.mem_append.1 member with inLabel | inName
  · exact absurd (Lexical.isLabelChar_of_isLabel admitted.1 ' ' inLabel) (by decide)
  · rcases List.mem_cons.1 inName with isColon | inName
    · exact absurd isColon (by decide)
    · exact Lexical.space_not_mem_of_isLocalName admitted.2 inName

theorem bracket_not_mem_full {uri : Text} (admitted : (Form.full uri).Admitted) : '>' ∉ uri := by
  intro member
  exact absurd (admitted '>' member) (by decide)

/-- A character with which a prefixed name may begin. -/
def opensName (c : Char) : Bool := c = ':' || Lexical.isLabelChar c

theorem prefixed_head {label name : Text} (admitted : (Form.prefixed label name).Admitted) :
    ∃ c rest, label ++ ':' :: name = c :: rest ∧ opensName c = true := by
  cases label with
  | nil => exact ⟨':', name, rfl, rfl⟩
  | cons c label =>
      have labelChar := Lexical.isLabelChar_of_isLabel admitted.1 c List.mem_cons_self
      exact ⟨c, label ++ ':' :: name, rfl, by simp [opensName, labelChar]⟩

theorem full_ne_prefixed {label name : Text} (admitted : (Form.prefixed label name).Admitted)
    (rest rest' : Text) : '<' :: rest ≠ label ++ ':' :: name ++ rest' := by
  intro same
  obtain ⟨c, tail, begins, opens⟩ := prefixed_head admitted
  rw [begins] at same
  rw [← (List.cons.inj same).1] at opens
  exact absurd opens (by decide)

theorem format_full (uri : Text) (name : Option Text) (u : Text) :
    format ⟨.full uri, name⟩ ++ ' ' :: u = '<' :: (uri ++ '>' :: ' ' :: u) := by
  simp [format]

theorem format_prefixed (label name : Text) (tag : Option Text) :
    format ⟨.prefixed label name, tag⟩ = label ++ ':' :: name := by
  simp [format]

/-- In front of a space an IRI is told apart from others and from what follows. -/
theorem format_append_inj {a b : Iri} (first : a.Admitted) (second : b.Admitted) {u v : Text}
    (same : a.format ++ ' ' :: u = b.format ++ ' ' :: v) : a = b ∧ u = v := by
  suffices forms : a.form = b.form ∧ u = v from ⟨eq_of_form first second forms.1, forms.2⟩
  have admitted := first.form
  have admitted' := second.form
  obtain ⟨form, tag⟩ := a
  obtain ⟨form', tag'⟩ := b
  cases form with
  | full uri =>
      cases form' with
      | full uri' =>
          rw [format_full, format_full] at same
          obtain ⟨rfl, later⟩ := Text.append_cons_inj (bracket_not_mem_full admitted)
            (bracket_not_mem_full admitted') (List.cons.inj same).2
          exact ⟨rfl, (List.cons.inj later).2⟩
      | prefixed label name =>
          rw [format_full, format_prefixed] at same
          exact absurd same (full_ne_prefixed admitted' _ _)
  | prefixed label name =>
      cases form' with
      | full uri =>
          rw [format_full, format_prefixed] at same
          exact absurd same.symm (full_ne_prefixed admitted _ _)
      | prefixed label' name' =>
          rw [format_prefixed, format_prefixed] at same
          obtain ⟨names, rfl⟩ := Text.append_cons_inj (space_not_mem_prefixed admitted)
            (space_not_mem_prefixed admitted') same
          obtain ⟨rfl, rfl⟩ := Text.append_cons_inj (Lexical.colon_not_mem_of_isLabel admitted.1)
            (Lexical.colon_not_mem_of_isLabel admitted'.1) names
          exact ⟨rfl, rfl⟩

end Iri

/-! ## What a text shows -/

/-- What follows a quoted value. -/
inductive Suffix where
  | none
  | datatype (iri : Iri)
  | language (tag : Text)
  deriving DecidableEq, Repr

namespace Suffix

def text : Suffix → Text
  | .none => []
  | .datatype iri => ['^', '^'] ++ iri.format
  | .language tag => '@' :: tag

/-- The parts of the suffix are admitted. -/
def Admitted : Suffix → Prop
  | .none => True
  | .datatype iri => iri.Admitted
  | .language tag => Lexical.isLanguageTag tag = true

/-- A suffix ends at the space behind it. -/
theorem text_append_inj {a b : Suffix} (first : a.Admitted) (second : b.Admitted) {u v : Text}
    (same : a.text ++ ' ' :: u = b.text ++ ' ' :: v) : a = b ∧ u = v := by
  cases a with
  | none =>
      cases b with
      | none => exact ⟨rfl, (List.cons.inj same).2⟩
      | datatype iri => exact absurd (List.cons.inj same).1 (by decide)
      | language tag => exact absurd (List.cons.inj same).1 (by decide)
  | datatype iri =>
      cases b with
      | none => exact absurd (List.cons.inj same).1 (by decide)
      | datatype iri' =>
          obtain ⟨rfl, rfl⟩ := Iri.format_append_inj first second
            (List.cons.inj (List.cons.inj same).2).2
          exact ⟨rfl, rfl⟩
      | language tag => exact absurd (List.cons.inj same).1 (by decide)
  | language tag =>
      cases b with
      | none => exact absurd (List.cons.inj same).1 (by decide)
      | datatype iri => exact absurd (List.cons.inj same).1 (by decide)
      | language tag' =>
          obtain ⟨rfl, rfl⟩ := Text.append_cons_inj
            (Lexical.space_not_mem_of_isLanguageTag first)
            (Lexical.space_not_mem_of_isLanguageTag second) (List.cons.inj same).2
          exact ⟨rfl, rfl⟩

/-- A suffix never doubles the closing apostrophe. -/
theorem head?_ne_apostrophe (suffix : Suffix) (u : Text) :
    (suffix.text ++ ' ' :: u).head? ≠ some '\'' := by
  cases suffix <;> simp [text]

end Suffix

/-- What the text of a term shows. -/
inductive Shown where
  | iri (iri : Iri)
  | bare (value : Text)
  | quoted (value : Text) (suffix : Suffix)
  deriving DecidableEq, Repr

namespace Shown

def text : Shown → Text
  | .iri name => name.format
  | .bare value => value
  | .quoted value suffix => Lexical.quote value ++ suffix.text

/-- The parts are admitted, and a bare value is one of some type. -/
def Admitted : Shown → Prop
  | .iri name => name.Admitted
  | .bare value => ∃ type : Lexical.BareType, type.accepts value = true
  | .quoted _ suffix => suffix.Admitted

theorem space_not_mem_bare {value : Text} (admitted : (Shown.bare value).Admitted) :
    ' ' ∉ value := by
  obtain ⟨type, accepted⟩ := admitted
  intro member
  exact absurd (Lexical.BareType.isBareChar_of_accepts accepted ' ' member) (by decide)

/-- A bare value is neither a full IRI nor a prefixed name. -/
theorem bare_ne_iri {value : Text} {iri : Iri} (admitted : (Shown.bare value).Admitted)
    (admitted' : iri.Admitted) (u v : Text) : value ++ ' ' :: u ≠ iri.format ++ ' ' :: v := by
  intro same
  obtain ⟨type, accepted⟩ := admitted
  have bareChars := Lexical.BareType.isBareChar_of_accepts accepted
  have form := admitted'.form
  obtain ⟨form', tag⟩ := iri
  cases form' with
  | full uri =>
      obtain ⟨c, rest, rfl⟩ :=
        List.exists_cons_of_ne_nil (Lexical.BareType.ne_nil_of_accepts accepted)
      rw [Iri.format_full] at same
      have isBare := bareChars c List.mem_cons_self
      rw [(List.cons.inj same).1] at isBare
      exact absurd isBare (by decide)
  | prefixed label name =>
      rw [Iri.format_prefixed] at same
      obtain ⟨rfl, _⟩ := Text.append_cons_inj (space_not_mem_bare ⟨type, accepted⟩)
        (Iri.space_not_mem_prefixed form) same
      exact absurd (bareChars ':' (by simp)) (by decide)

def isQuoted : Shown → Bool
  | .quoted _ _ => true
  | _ => false

theorem isQuoteMark_of_isBareChar {c : Char} (isBare : Lexical.BareType.isBareChar c = true) :
    Lexical.isQuoteMark c = false := by
  rw [Lexical.isQuoteMark, Bool.or_eq_false_iff, decide_eq_false_iff_not, decide_eq_false_iff_not]
  constructor
  · rintro rfl
    exact absurd isBare (by decide)
  · rintro rfl
    exact absurd isBare (by decide)

theorem isQuoteMark_of_opensName {c : Char} (opens : Iri.opensName c = true) :
    Lexical.isQuoteMark c = false := by
  rw [Lexical.isQuoteMark, Bool.or_eq_false_iff, decide_eq_false_iff_not, decide_eq_false_iff_not]
  constructor
  · rintro rfl
    exact absurd opens (by decide)
  · rintro rfl
    exact absurd opens (by decide)

/-- The first character of a text tells whether a quoted value follows. -/
theorem text_head {shown : Shown} (admitted : shown.Admitted) :
    ∃ c rest, shown.text = c :: rest ∧ Lexical.isQuoteMark c = shown.isQuoted := by
  cases shown with
  | iri name =>
      have form := Iri.Admitted.form admitted
      obtain ⟨form', tag⟩ := name
      cases form' with
      | full uri => exact ⟨'<', uri ++ ['>'], rfl, rfl⟩
      | prefixed label name =>
          obtain ⟨c, rest, begins, opens⟩ := Iri.prefixed_head form
          exact ⟨c, rest, (Iri.format_prefixed label name tag).trans begins,
            isQuoteMark_of_opensName opens⟩
  | bare value =>
      obtain ⟨type, accepted⟩ := admitted
      obtain ⟨c, rest, rfl⟩ :=
        List.exists_cons_of_ne_nil (Lexical.BareType.ne_nil_of_accepts accepted)
      have isBare := Lexical.BareType.isBareChar_of_accepts accepted c List.mem_cons_self
      exact ⟨c, rest, rfl, isQuoteMark_of_isBareChar isBare⟩
  | quoted value suffix =>
      obtain ⟨c, rest, begins, isMark⟩ := Lexical.quote_head value
      exact ⟨c, rest ++ suffix.text, by rw [text, begins, List.cons_append], isMark⟩

/-- Whether a quoted value follows shows in the first character. -/
theorem isQuoted_eq {a b : Shown} (first : a.Admitted) (second : b.Admitted) {u v : Text}
    (same : a.text ++ ' ' :: u = b.text ++ ' ' :: v) : a.isQuoted = b.isQuoted := by
  obtain ⟨c, rest, begins, isMark⟩ := text_head first
  obtain ⟨c', rest', begins', isMark'⟩ := text_head second
  rw [begins, begins'] at same
  rw [← isMark, ← isMark', (List.cons.inj same).1]

/-- **In front of a space a text is told apart from others and from what follows.** -/
theorem text_append_inj {a b : Shown} (first : a.Admitted) (second : b.Admitted) {u v : Text}
    (same : a.text ++ ' ' :: u = b.text ++ ' ' :: v) : a = b ∧ u = v := by
  have sameKind := isQuoted_eq first second same
  cases a with
  | iri name =>
      cases b with
      | iri name' =>
          obtain ⟨rfl, rfl⟩ := Iri.format_append_inj first second same
          exact ⟨rfl, rfl⟩
      | bare value => exact absurd same.symm (bare_ne_iri second first _ _)
      | quoted value suffix => cases sameKind
  | bare value =>
      cases b with
      | iri name => exact absurd same (bare_ne_iri first second _ _)
      | bare value' =>
          obtain ⟨rfl, rfl⟩ := Text.append_cons_inj (space_not_mem_bare first)
            (space_not_mem_bare second) same
          exact ⟨rfl, rfl⟩
      | quoted value' suffix => cases sameKind
  | quoted value suffix =>
      cases b with
      | iri name => cases sameKind
      | bare value' => cases sameKind
      | quoted value' suffix' =>
          simp only [text, List.append_assoc] at same
          obtain ⟨rfl, later⟩ := Lexical.quote_append_inj (suffix.head?_ne_apostrophe u)
            (suffix'.head?_ne_apostrophe v) same
          obtain ⟨rfl, rfl⟩ := Suffix.text_append_inj first second later
          exact ⟨rfl, rfl⟩

end Shown

/-! ## Terms that show the same -/

namespace Term

def shown : Term → Shown
  | .iri name => .iri name
  | .literal scalar =>
      match scalar.bare? with
      | some value => .bare value
      | none => .quoted scalar.value (scalar.datatype.elim .none .datatype)
  | .string text => .quoted text.value (text.language.elim .none .language)

/-- A term is written as what it shows. -/
theorem format_eq_text_shown (term : Term) : term.format = term.shown.text := by
  cases term with
  | iri name => rfl
  | literal scalar =>
      simp only [format, shown, Literal.format]
      cases bare : scalar.bare? with
      | some value => rfl
      | none => cases typed : scalar.datatype <;> rfl
  | string text =>
      simp only [format, shown, StringLiteral.format]
      cases tagged : text.language <;> rfl

theorem accepts_of_bare? {scalar : SparqlRequest.Literal} {bare : Text}
    (found : scalar.bare? = some bare) :
    ∃ type, scalar.datatype.bind Iri.bareType? = some type ∧
      type.bareForm? scalar.value = some bare :=
  Option.bind_eq_some_iff.1 found

theorem admitted_shown {term : Term} (admitted : term.Admitted) : term.shown.Admitted := by
  cases term with
  | iri name => exact admitted
  | literal scalar =>
      simp only [shown]
      cases bare : scalar.bare? with
      | some value =>
          obtain ⟨type, _, found⟩ := accepts_of_bare? bare
          exact ⟨type, Lexical.BareType.accepts_of_bareForm? found⟩
      | none =>
          cases typed : scalar.datatype with
          | none => trivial
          | some datatype => exact admitted datatype typed
  | string text =>
      simp only [shown]
      cases tagged : text.language with
      | none => trivial
      | some tag => exact admitted tag tagged

/-- Both literals are written bare, as one type, and their values are equal, for doubles
after an exponent is added where one is missing. -/
structure BareAlike (a b : SparqlRequest.Literal) (type : Lexical.BareType) : Prop where
  firstType : a.datatype.bind Iri.bareType? = some type
  secondType : b.datatype.bind Iri.bareType? = some type
  firstBare : a.bare?.isSome = true
  secondBare : b.bare?.isSome = true
  values : a.value = b.value ∨
    type = .double ∧
      Lexical.BareType.doubleForm? a.value = Lexical.BareType.doubleForm? b.value

/-- The terms that a statement cannot tell apart. -/
inductive Alike : Term → Term → Prop
  /-- The same term. -/
  | same (term : Term) : Alike term term
  /-- An untyped literal and a string literal without a language tag. -/
  | untyped (value : Text) : Alike (.literal ⟨value, none⟩) (.string ⟨value, none⟩)
  /-- The same two, the other way round. -/
  | plain (value : Text) : Alike (.string ⟨value, none⟩) (.literal ⟨value, none⟩)
  /-- Two bare literals of one type and equal values. -/
  | bare {a b : SparqlRequest.Literal} {type : Lexical.BareType} (alike : BareAlike a b type) :
      Alike (.literal a) (.literal b)

theorem shown_bare {scalar : SparqlRequest.Literal} {value : Text}
    (bare : scalar.bare? = some value) : (Term.literal scalar).shown = .bare value := by
  rw [shown, bare]

theorem shown_quoted {scalar : SparqlRequest.Literal} (bare : scalar.bare? = none) :
    (Term.literal scalar).shown =
      .quoted scalar.value (scalar.datatype.elim .none .datatype) := by
  rw [shown, bare]

theorem suffix_datatype_inj {a b : Option Iri}
    (same : a.elim Suffix.none Suffix.datatype = b.elim .none .datatype) : a = b := by
  cases a <;> cases b <;> simp_all

theorem suffix_language_inj {a b : Option Text}
    (same : a.elim Suffix.none Suffix.language = b.elim .none .language) : a = b := by
  cases a <;> cases b <;> simp_all

theorem suffix_eq_none {a : Option Iri} {b : Option Text}
    (same : a.elim Suffix.none Suffix.datatype = b.elim .none .language) :
    a = none ∧ b = none := by
  cases a <;> cases b <;> simp_all

theorem bareAlike_of_bare {a b : SparqlRequest.Literal} {value : Text}
    (first : a.bare? = some value) (second : b.bare? = some value) :
    ∃ type, BareAlike a b type := by
  obtain ⟨type, firstType, firstForm⟩ := accepts_of_bare? first
  obtain ⟨type', secondType, secondForm⟩ := accepts_of_bare? second
  obtain rfl : type = type' :=
    Lexical.BareType.eq_of_accepts (Lexical.BareType.accepts_of_bareForm? firstForm)
      (Lexical.BareType.accepts_of_bareForm? secondForm)
  refine ⟨type, firstType, secondType, by simp [first], by simp [second], ?_⟩
  by_cases isDouble : type = .double
  · subst isDouble
    exact Or.inr ⟨rfl, firstForm.trans secondForm.symm⟩
  · have firstValue := Lexical.BareType.eq_of_bareForm? isDouble firstForm
    have secondValue := Lexical.BareType.eq_of_bareForm? isDouble secondForm
    exact Or.inl (firstValue.symm.trans secondValue)

theorem bare_eq_of_bareAlike {a b : SparqlRequest.Literal} {type : Lexical.BareType}
    (alike : BareAlike a b type) : a.bare? = b.bare? := by
  rw [Literal.bare?, Literal.bare?, alike.firstType, alike.secondType]
  rcases alike.values with same | ⟨rfl, same⟩
  · rw [same]
  · exact same

theorem shown_literal_ne_iri (scalar : SparqlRequest.Literal) (name : Iri) :
    (Term.literal scalar).shown ≠ .iri name := by
  cases bare : scalar.bare? with
  | some value =>
      rw [shown_bare bare]
      exact Shown.noConfusion
  | none =>
      rw [shown_quoted bare]
      exact Shown.noConfusion

theorem alike_of_literals {a b : SparqlRequest.Literal}
    (same : (Term.literal a).shown = (Term.literal b).shown) :
    Alike (.literal a) (.literal b) := by
  cases bare : a.bare? with
  | some value =>
      rw [shown_bare bare] at same
      cases bare' : b.bare? with
      | some value' =>
          rw [shown_bare bare'] at same
          cases same
          obtain ⟨type, alike⟩ := bareAlike_of_bare bare bare'
          exact .bare alike
      | none =>
          rw [shown_quoted bare'] at same
          cases same
  | none =>
      rw [shown_quoted bare] at same
      cases bare' : b.bare? with
      | some value' =>
          rw [shown_bare bare'] at same
          cases same
      | none =>
          rw [shown_quoted bare'] at same
          obtain ⟨value, datatype⟩ := a
          obtain ⟨value', datatype'⟩ := b
          obtain ⟨rfl, suffixes⟩ := Shown.quoted.inj same
          obtain rfl := suffix_datatype_inj suffixes
          exact .same _

theorem untyped_of_shown_eq {scalar : SparqlRequest.Literal} {text : StringLiteral}
    (same : (Term.literal scalar).shown = (Term.string text).shown) :
    scalar = ⟨text.value, none⟩ ∧ text = ⟨text.value, none⟩ := by
  cases bare : scalar.bare? with
  | some value =>
      rw [shown_bare bare] at same
      cases same
  | none =>
      rw [shown_quoted bare] at same
      obtain ⟨value, datatype⟩ := scalar
      obtain ⟨value', language⟩ := text
      obtain ⟨rfl, suffixes⟩ := Shown.quoted.inj same
      obtain ⟨rfl, rfl⟩ := suffix_eq_none suffixes
      exact ⟨rfl, rfl⟩

/-- Terms that show the same are alike. -/
theorem alike_of_shown_eq {a b : Term} (same : a.shown = b.shown) : Alike a b := by
  cases a with
  | iri name =>
      cases b with
      | iri name' =>
          cases same
          exact .same _
      | literal scalar => exact absurd same.symm (shown_literal_ne_iri scalar name)
      | string text => cases same
  | literal scalar =>
      cases b with
      | iri name => exact absurd same (shown_literal_ne_iri scalar name)
      | literal scalar' => exact alike_of_literals same
      | string text =>
          obtain ⟨untyped, plain⟩ := untyped_of_shown_eq same
          rw [untyped, plain]
          exact .untyped text.value
  | string text =>
      cases b with
      | iri name => cases same
      | literal scalar =>
          obtain ⟨untyped, plain⟩ := untyped_of_shown_eq same.symm
          rw [untyped, plain]
          exact .plain text.value
      | string text' =>
          obtain ⟨value, language⟩ := text
          obtain ⟨value', language'⟩ := text'
          obtain ⟨rfl, suffixes⟩ := Shown.quoted.inj same
          obtain rfl := suffix_language_inj suffixes
          exact .same _

theorem shown_eq_of_alike {a b : Term} (alike : Alike a b) : a.shown = b.shown := by
  cases alike with
  | same term => rfl
  | untyped value => rfl
  | plain value => rfl
  | bare alike =>
      obtain ⟨value, bare⟩ := Option.isSome_iff_exists.1 alike.firstBare
      rw [shown_bare bare, shown_bare (bare_eq_of_bareAlike alike ▸ bare)]

/-- Terms show the same exactly when they are alike. -/
theorem shown_eq_iff_alike {a b : Term} : a.shown = b.shown ↔ Alike a b :=
  ⟨alike_of_shown_eq, shown_eq_of_alike⟩

/-! ## The manners of writing -/

/-- The manners in which a term is written. -/
inductive Manner where
  | iri
  | bare
  | quoted
  | typed
  | tagged
  deriving DecidableEq, Repr

def manner : Term → Manner
  | .iri _ => .iri
  | .literal scalar =>
      if scalar.bare?.isSome then .bare
      else if scalar.datatype.isSome then .typed
      else .quoted
  | .string text => if text.language.isSome then .tagged else .quoted

/-- Terms that are alike are written in one manner. -/
theorem manner_eq_of_alike {a b : Term} (alike : Alike a b) : a.manner = b.manner := by
  cases alike with
  | same term => rfl
  | untyped value => rfl
  | plain value => rfl
  | bare alike => rw [manner, manner, if_pos alike.firstBare, if_pos alike.secondBare]

/-- **A bound term has one reading.**  In front of the space that a binding adds, two texts
agree only for terms that are alike, and then they end in the same place; texts written in
different manners never agree. -/
theorem format_append_eq_iff_alike {r r' : Recipe} {a b : Term} (made : r.build = .ok a)
    (made' : r'.build = .ok b) (u v : Text) :
    (a.format ++ ' ' :: u = b.format ++ ' ' :: v ↔ Alike a b ∧ u = v) ∧
      (a.manner ≠ b.manner → a.format ++ ' ' :: u ≠ b.format ++ ' ' :: v) := by
  have reads : a.format ++ ' ' :: u = b.format ++ ' ' :: v → Alike a b ∧ u = v := by
    intro same
    rw [format_eq_text_shown, format_eq_text_shown] at same
    obtain ⟨sameShown, rfl⟩ := Shown.text_append_inj (admitted_shown (admitted_of_build made))
      (admitted_shown (admitted_of_build made')) same
    exact ⟨shown_eq_iff_alike.1 sameShown, rfl⟩
  refine ⟨⟨reads, ?_⟩, fun differ same => differ (manner_eq_of_alike (reads same).1)⟩
  rintro ⟨alike, rfl⟩
  rw [format_eq_text_shown, format_eq_text_shown, shown_eq_iff_alike.2 alike]

/-- A double with its exponent under the full name of its type reads like one without it
under the prefixed name. -/
theorem format_append_eq_iff_alike_doubles :
    let short : Term := .literal
      ⟨"1".toList, some ⟨.prefixed "xsd".toList "double".toList, some "xsd".toList⟩⟩
    let long : Term := .literal
      ⟨"1e0".toList, some ⟨.full (Vocabulary.xsd ++ "double".toList), some "xsd".toList⟩⟩
    (Recipe.literal (.text "1".toList)
        (some (.ofName "xsd".toList "double".toList))).build = .ok short ∧
      (Recipe.literal (.text "1e0".toList)
        (some (.uri (Vocabulary.xsd ++ "double".toList)))).build = .ok long ∧
      Alike short long ∧ "?x".toList = "?x".toList := by
  intro short long
  have made : (Recipe.literal (.text "1".toList)
      (some (.ofName "xsd".toList "double".toList))).build = .ok short := rfl
  have made' : (Recipe.literal (.text "1e0".toList)
      (some (.uri (Vocabulary.xsd ++ "double".toList)))).build = .ok long := rfl
  have reads := (format_append_eq_iff_alike made made' "?x".toList "?x".toList).1.1 rfl
  exact ⟨made, made', reads⟩

end Term

end SparqlRequest
