/-
# Proofs.Term.Control -- control characters stay inside a term

Four characters could end a line or a statement early: NUL, line feed, tab and carriage
return.  The text of a term never holds the first, and the others only where they are
harmless, a line feed in the body of a string between triples of quotation marks, and a tab or
a carriage return between the angle brackets of a full IRI (`Term.contained_of_build`).

The text of a term is made of few kinds of pieces.  Labels, local names, language tags and
bare values have alphabets without any of the four (`control_not_mem`); a quoted value takes
them from its value alone, and writes tab and carriage return in escapes; a full IRI refuses
NUL and line feed.
-/
import SparqlRequest.Proofs.Term.Native
import SparqlRequest.Proofs.Term.Reading

set_option autoImplicit false

namespace SparqlRequest

open Lexical

/-! ## The place of a character in an append -/

namespace Text

variable {front back before after : Text} {c : Char}

/-- A character that the back lacks stands in the front. -/
theorem split_front (absent : c ∉ back) (split : front ++ back = before ++ c :: after) :
    ∃ middle, front = before ++ c :: middle ∧ after = middle ++ back := by
  rcases List.append_eq_append_iff.1 split with ⟨more, rfl, rfl⟩ | ⟨middle, rfl, later⟩
  · exact absurd (List.mem_append_right more List.mem_cons_self) absent
  · cases middle with
    | nil =>
        rw [List.nil_append] at later
        exact absurd (later ▸ List.mem_cons_self) absent
    | cons d middle =>
        obtain ⟨rfl, rfl⟩ := List.cons.inj later
        exact ⟨middle, rfl, rfl⟩

/-- A character that the front lacks stands in the back. -/
theorem split_back (absent : c ∉ front) (split : front ++ back = before ++ c :: after) :
    ∃ middle, before = front ++ middle ∧ back = middle ++ c :: after := by
  rcases List.append_eq_append_iff.1 split with ⟨middle, rfl, later⟩ | ⟨middle, rfl, later⟩
  · exact ⟨middle, rfl, later⟩
  · cases middle with
    | nil => exact ⟨[], by simp only [List.append_nil], later.symm⟩
    | cons d middle =>
        obtain ⟨rfl, _⟩ := List.cons.inj later
        exact absurd (List.mem_append_right before List.mem_cons_self) absent

end Text

/-! ## Pieces without control characters -/

namespace Lexical

/-- The control characters that could end a line or a statement early. -/
def controls : List Char := ['\x00', '\n', '\t', '\r']

variable {c : Char}

theorem control_cases (control : c ∈ controls) :
    c = '\x00' ∨ c = '\n' ∨ c = '\t' ∨ c = '\r' := by
  simpa [controls] using control

/-- An alphabet without the control characters keeps them out. -/
theorem control_not_mem {inside : Char → Bool} (refuses : controls.any inside = false) {t : Text}
    (alphabet : ∀ c ∈ t, inside c = true) (control : c ∈ controls) : c ∉ t := by
  intro member
  have refused := List.any_eq_false.1 refuses c control
  exact refused (alphabet c member)

/-- So do marks that are none of them. -/
theorem control_not_mem_marks {marks : Text} (apart : marks.any controls.contains = false)
    (control : c ∈ controls) : c ∉ marks := by
  intro member
  have refused := List.any_eq_false.1 apart c member
  exact refused (List.contains_iff_mem.2 control)

theorem control_not_mem_label {t : Text} (label : isLabel t = true) (control : c ∈ controls) :
    c ∉ t :=
  control_not_mem rfl (isLabelChar_of_isLabel label) control

theorem control_not_mem_localName {t : Text} (localName : isLocalName t = true)
    (control : c ∈ controls) : c ∉ t := by
  have alphabet : ∀ d ∈ t, !localForbidden.contains d := List.all_eq_true.1 localName
  exact control_not_mem rfl alphabet control

theorem control_not_mem_languageTag {t : Text} (tag : isLanguageTag t = true)
    (control : c ∈ controls) : c ∉ t :=
  control_not_mem rfl (isTagChar_of_isLanguageTag tag) control

theorem control_not_mem_bare {type : BareType} {t : Text} (accepted : type.accepts t = true)
    (control : c ∈ controls) : c ∉ t :=
  control_not_mem rfl (BareType.isBareChar_of_accepts accepted) control

/-- A quoted value takes its control characters from the value, and there are two kinds that it
escapes. -/
theorem control_mem_quote {value : Text} (control : c ∈ controls) (member : c ∈ quote value) :
    c ∈ value ∧ c ≠ '\t' ∧ c ≠ '\r' := by
  have noPart : c ∉ '\\' :: "tbnrf\\\"'".toList := control_not_mem_marks rfl control
  rcases mem_quote member with isMark | inBody
  · rcases control_cases control with rfl | rfl | rfl | rfl <;> cases isMark
  · rcases mem_escape inBody with ⟨inValue, unescaped⟩ | part
    · refine ⟨inValue, ?_, ?_⟩
      · rintro rfl
        exact absurd unescaped (by decide)
      · rintro rfl
        exact absurd unescaped (by decide)
    · exact absurd (List.mem_cons.2 part) noPart

end Lexical

/-! ## IRIs -/

namespace Iri

/-- Between the angle brackets of a full IRI the character `c` stands behind `before`, in front
of `after`, brackets included. -/
def Encloses (iri : Iri) (before : Text) (c : Char) (after : Text) : Prop :=
  ∃ front back, iri.form = .full (front ++ c :: back) ∧ before = '<' :: front ∧
    after = back ++ ['>']

/-- A control character of an IRI stands between angle brackets, and is a tab or a carriage
return. -/
theorem encloses_of_control {iri : Iri} (admitted : iri.Admitted) {c : Char}
    (control : c ∈ controls) {before after : Text} (split : iri.format = before ++ c :: after) :
    iri.Encloses before c after ∧ breaksOut c = false := by
  have form := admitted.form
  obtain ⟨shape, tag⟩ := iri
  cases shape with
  | full uri =>
      have noOpen : c ∉ ['<'] := control_not_mem_marks rfl control
      have noClose : c ∉ ['>'] := control_not_mem_marks rfl control
      obtain ⟨back, opened, rfl⟩ := Text.split_front noClose split
      obtain ⟨front, rfl, rfl⟩ := Text.split_back noOpen opened
      exact ⟨⟨front, back, rfl, rfl, rfl⟩, form c (by simp)⟩
  | prefixed label name =>
      obtain ⟨isLabel, isLocalName⟩ := form
      rw [format_prefixed] at split
      have member : c ∈ label ++ ':' :: name := by simp [split]
      have noColon : c ∉ [':'] := control_not_mem_marks rfl control
      rw [List.append_cons, List.mem_append, List.mem_append] at member
      rcases member with (inLabel | isColon) | inName
      · exact absurd inLabel (control_not_mem_label isLabel control)
      · exact absurd isColon noColon
      · exact absurd inName (control_not_mem_localName isLocalName control)

end Iri

/-! ## Quoted values -/

namespace Lexical

/-- In the body of a string between triples of quotation marks the character `c` stands behind
`before`, in front of `after`, delimiters included. -/
def InBody (before : Text) (c : Char) (after : Text) : Prop :=
  ∃ front back, before = Delimiter.tripled.text ++ front ∧
    after = back ++ Delimiter.tripled.text ∧
    StringProduction.longLiteral2.Derives (before ++ c :: after)

/-- A line feed of a value is written between triples of quotation marks. -/
theorem inBody_of_lineFeed {value before after : Text}
    (split : quote value = before ++ '\n' :: after) : InBody before '\n' after := by
  have tripled : Delimiter.choose value = .tripled := by
    by_contra single
    exact lineFeed_not_mem_quote single (split ▸ List.mem_append_right _ List.mem_cons_self)
  have derived := derives_quote value
  have noLineFeed : '\n' ∉ Delimiter.tripled.text := control_not_mem_marks rfl (by decide)
  rw [tripled, split] at derived
  rw [quote, tripled] at split
  obtain ⟨back, opened, rfl⟩ := Text.split_front noLineFeed split
  obtain ⟨front, rfl, _⟩ := Text.split_back noLineFeed opened
  exact ⟨front, back, rfl, rfl, derived⟩

end Lexical

/-! ## What is shown -/

namespace Shown

/-- The text that is shown ends with an IRI, behind `lead`. -/
inductive EndsWith : Shown → Text → Iri → Prop
  /-- It is the IRI. -/
  | iri (name : Iri) : EndsWith (.iri name) [] name
  /-- It is the datatype of a quoted value. -/
  | datatype (value : Text) (name : Iri) :
      EndsWith (.quoted value (.datatype name)) (quote value ++ "^^".toList) name

variable {shown : Shown} {c : Char} {before after : Text}

/-- A control character behind a quoted value belongs to its datatype. -/
theorem encloses_of_suffix {suffix : Suffix} (admitted : suffix.Admitted) (control : c ∈ controls)
    (split : suffix.text = before ++ c :: after) :
    ∃ name inner, suffix = .datatype name ∧ before = "^^".toList ++ inner ∧
      name.Encloses inner c after ∧ breaksOut c = false := by
  have member : c ∈ suffix.text := by simp [split]
  cases suffix with
  | none => cases member
  | datatype name =>
      have noCaret : c ∉ "^^".toList := control_not_mem_marks rfl control
      obtain ⟨inner, rfl, written⟩ := Text.split_back noCaret split
      obtain ⟨encloses, kept⟩ := Iri.encloses_of_control admitted control written
      exact ⟨name, inner, rfl, rfl, encloses, kept⟩
  | language tag =>
      have noAt : c ∉ ['@'] := control_not_mem_marks rfl control
      rcases List.mem_cons.1 member with isAt | inTag
      · exact absurd (List.mem_singleton.2 isAt) noAt
      · exact absurd inTag (control_not_mem_languageTag admitted control)

/-- NUL and line feed stand in a quoted value. -/
theorem quoted_of_breaksOut (admitted : shown.Admitted) (control : c ∈ controls)
    (breaks : breaksOut c = true) (split : shown.text = before ++ c :: after) :
    ∃ value suffix middle, shown = .quoted value suffix ∧ quote value = before ++ c :: middle ∧
      after = middle ++ suffix.text := by
  cases shown with
  | iri name =>
      obtain ⟨_, kept⟩ := Iri.encloses_of_control admitted control split
      rw [breaks] at kept
      cases kept
  | bare value =>
      obtain ⟨type, accepted⟩ := admitted
      have member : c ∈ (Shown.bare value).text := by simp [split]
      exact absurd member (control_not_mem_bare accepted control)
  | quoted value suffix =>
      have absent : c ∉ suffix.text := by
        intro member
        obtain ⟨front, back, behind⟩ := List.append_of_mem member
        obtain ⟨_, _, _, _, _, kept⟩ := encloses_of_suffix admitted control behind
        rw [breaks] at kept
        cases kept
      obtain ⟨middle, quoted, rfl⟩ := Text.split_front absent split
      exact ⟨value, suffix, middle, rfl, quoted, rfl⟩

/-- Tab and carriage return stand in an IRI. -/
theorem encloses_of_not_breaksOut (admitted : shown.Admitted) (control : c ∈ controls)
    (kept : breaksOut c = false) (split : shown.text = before ++ c :: after) :
    ∃ lead name inner, shown.EndsWith lead name ∧ before = lead ++ inner ∧
      name.Encloses inner c after := by
  cases shown with
  | iri name =>
      obtain ⟨encloses, _⟩ := Iri.encloses_of_control admitted control split
      exact ⟨[], name, before, .iri name, rfl, encloses⟩
  | bare value =>
      obtain ⟨type, accepted⟩ := admitted
      have member : c ∈ (Shown.bare value).text := by simp [split]
      exact absurd member (control_not_mem_bare accepted control)
  | quoted value suffix =>
      have absent : c ∉ quote value := by
        intro member
        obtain ⟨_, noTab, noReturn⟩ := control_mem_quote control member
        rcases control_cases control with rfl | rfl | rfl | rfl
        · cases kept
        · cases kept
        · exact noTab rfl
        · exact noReturn rfl
      obtain ⟨middle, rfl, behind⟩ := Text.split_back absent split
      obtain ⟨name, inner, rfl, rfl, encloses, _⟩ := encloses_of_suffix admitted control behind
      exact ⟨_, name, inner, .datatype value name, by rw [List.append_assoc], encloses⟩

end Shown

/-! ## Terms -/

namespace Native

/-- Native values are written without NUL. -/
theorem nul_not_mem_written (value : Native) : '\x00' ∉ value.written := by
  cases infinite : value.isInfinite with
  | false =>
      rw [← scalar_written_eq_iff.2 infinite]
      exact nul_not_mem_scalar value
  | true =>
      cases value using kinds with
      | infinite negative => cases negative <;> decide
      | _ => cases infinite

end Native

namespace Term

/-- The value that a term holds beside its datatype or language tag; an IRI holds none. -/
def value? : Term → Option Text
  | .iri _ => none
  | .literal scalar => some scalar.value
  | .string text => some text.value

/-- Values are checked for NUL, and those of native values need no check. -/
theorem nul_not_mem_value {recipe : Recipe} {term : Term} (made : recipe.build = .ok term) :
    ∀ value ∈ term.value?, '\x00' ∉ value := by
  rintro value held
  cases recipe with
  | iri source =>
      obtain ⟨name, _, rfl⟩ := map_eq_ok_iff.1 made
      cases held
  | literal scalar datatype =>
      cases datatype with
      | none =>
          obtain ⟨literal, created, rfl⟩ := map_eq_ok_iff.1 made
          obtain ⟨safe, rfl⟩ := Literal.create_eq_ok_iff.1 created
          cases held
          exact safe
      | some source =>
          obtain ⟨literal, created, rfl⟩ := map_eq_ok_iff.1 made
          obtain ⟨safe, _, _, rfl⟩ := Literal.typed_eq_ok_iff.1 created
          cases held
          exact safe
  | string scalar language =>
      obtain ⟨literal, created, rfl⟩ := map_eq_ok_iff.1 made
      obtain ⟨safe, _, rfl⟩ := StringLiteral.create_eq_ok_iff.1 created
      cases held
      exact safe
  | native native =>
      cases made
      cases held
      exact native.nul_not_mem_written

theorem value?_of_quoted {term : Term} {value : Text} {suffix : Suffix}
    (quoted : term.shown = .quoted value suffix) : term.value? = some value := by
  cases term with
  | iri name => cases quoted
  | literal scalar =>
      cases bare : scalar.bare? with
      | some written =>
          rw [shown_bare bare] at quoted
          cases quoted
      | none =>
          rw [shown_quoted bare] at quoted
          cases quoted
          rfl
  | string text =>
      cases quoted
      rfl

/-- No control character leaks out of a term: there is no NUL, a line feed stands in the body
of a string between triples of quotation marks, and a tab or a carriage return between the
angle brackets of a full IRI. -/
structure Contained (term : Term) : Prop where
  nul : '\x00' ∉ term.format
  lineFeed : ∀ before after, term.format = before ++ '\n' :: after →
    ∃ value suffix middle, term.shown = .quoted value suffix ∧
      quote value = before ++ '\n' :: middle ∧ InBody before '\n' middle ∧
      after = middle ++ suffix.text
  tabOrReturn : ∀ c, c = '\t' ∨ c = '\r' → ∀ before after, term.format = before ++ c :: after →
    ∃ lead name inner, term.shown.EndsWith lead name ∧ before = lead ++ inner ∧
      name.Encloses inner c after

/-- **Control characters stay inside a term.** -/
theorem contained_of_build {recipe : Recipe} {term : Term} (made : recipe.build = .ok term) :
    term.Contained := by
  have admitted := admitted_shown (admitted_of_build made)
  constructor
  · intro member
    obtain ⟨before, after, split⟩ := List.append_of_mem member
    rw [format_eq_text_shown] at split
    obtain ⟨value, suffix, middle, shown, quoted, _⟩ :=
      Shown.quoted_of_breaksOut admitted (by decide) (by decide) split
    have inQuote : '\x00' ∈ quote value := by simp [quoted]
    exact nul_not_mem_value made value (value?_of_quoted shown)
      (control_mem_quote (by decide) inQuote).1
  · intro before after split
    rw [format_eq_text_shown] at split
    obtain ⟨value, suffix, middle, shown, quoted, rest⟩ :=
      Shown.quoted_of_breaksOut admitted (by decide) (by decide) split
    exact ⟨value, suffix, middle, shown, quoted, inBody_of_lineFeed quoted, rest⟩
  · intro c either before after split
    rw [format_eq_text_shown] at split
    rcases either with rfl | rfl
    · exact Shown.encloses_of_not_breaksOut admitted (by decide) (by decide) split
    · exact Shown.encloses_of_not_breaksOut admitted (by decide) (by decide) split

end Term

end SparqlRequest
