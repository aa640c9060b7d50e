/-
# Proofs.Term.Native -- native values are typed literals

A native value becomes a term without any check, and with a datatype that is put together by
hand.  The term is the one that the checks would let through: the literal of the value as text,
typed by the full URI of its datatype (`build_scalar_eq_iff`).  Only the infinities differ, since
XML Schema has names of its own for them.

Truth values, integers and finite doubles are written bare, and no other double is
(`accepts_format_iff`).  What is written for them denotes the value, as `ofNative_typed` says of
each kind.
-/
import SparqlRequest.Proofs.Lexical.BareForm
import SparqlRequest.Proofs.Number.Written
import SparqlRequest.Proofs.Term.Admitted

set_option autoImplicit false

namespace SparqlRequest

open Lexical

/-! ## Datatypes of XML Schema -/

namespace Iri

/-- The IRI that is put together by hand is the one that the checks let through. -/
theorem create_xsd (type : BareType) :
    create (.uri (Vocabulary.xsd ++ type.localName)) = .ok (xsd type) :=
  create_source (admitted_xsd type)

theorem bareType?_xsd (type : BareType) : (xsd type).bareType? = some type := by
  have known : (xsd type).namespaceName = some Vocabulary.xsdLabel := rfl
  have named : (xsd type).localName? = some type.localName := Text.after?_eq_some_iff.2 rfl
  rw [bareType?, if_pos known, named, Option.bind_some]
  cases type <;> decide

end Iri

namespace Literal

/-- A value without NUL makes the same literal with checks and without. -/
theorem typed_xsd {value : Text} (type : BareType) (safe : '\x00' ∉ value) :
    typed value (.uri (Vocabulary.xsd ++ type.localName)) = .ok (.xsd value type) :=
  typed_eq_ok_iff.2 ⟨safe, _, Iri.create_xsd type, rfl⟩

theorem bare?_xsd (value : Text) (type : BareType) :
    (Literal.xsd value type).bare? = type.bareForm? value := by
  rw [bare?, xsd, Option.bind_some, Iri.bareType?_xsd, Option.bind_some]

theorem format_of_bareForm? {value bare : Text} {type : BareType}
    (found : type.bareForm? value = some bare) : (Literal.xsd value type).format = bare := by
  rw [format, bare?_xsd, found]

end Literal

/-! ## Native values -/

/-- The truth value that a text denotes. -/
def Lexical.truthValue? (t : Text) : Option Bool :=
  if t = "true".toList then some true
  else if t = "false".toList then some false
  else none

namespace Native

/-- The value that becomes the text of a literal. -/
def scalar : Native → Scalar
  | .boolean b => .boolean b
  | .integer i => .integer i
  | .double x => .double x

def isInfinite : Native → Bool
  | .double (.infinite _) => true
  | _ => false

/-- A truth value, an integer, or a finite double. -/
def isFinite : Native → Bool
  | .double .notANumber => false
  | .double (.infinite _) => false
  | _ => true

/-- The kinds of native values, with three kinds of doubles. -/
@[elab_as_elim]
theorem kinds {motive : Native → Prop} (boolean : ∀ b, motive (.boolean b))
    (integer : ∀ i, motive (.integer i)) (notANumber : motive (.double .notANumber))
    (infinite : ∀ negative, motive (.double (.infinite negative)))
    (finite : ∀ negative x, motive (.double (.finite negative x))) (value : Native) :
    motive value := by
  cases value with
  | boolean b => exact boolean b
  | integer i => exact integer i
  | double x =>
      cases x with
      | notANumber => exact notANumber
      | infinite negative => exact infinite negative
      | finite negative x => exact finite negative x

theorem bareForm?_boolean (b : Bool) :
    BareType.boolean.bareForm? (written (.boolean b)) = some (written (.boolean b)) := by
  cases b <;> rfl

theorem bareForm?_integer (i : Int) :
    BareType.integer.bareForm? (Number.ofInt i) = some (Number.ofInt i) := by
  have accepted : BareType.integer.accepts (Number.ofInt i) = true :=
    BareType.accepts_integer_iff.2 ⟨.ofInt i, WrittenNumber.text_ofInt i, rfl, rfl⟩
  exact BareType.bareForm?_of_accepts accepted

theorem bareForm?_finite (negative : Bool) (x : Magnitude) :
    BareType.double.bareForm? (Binary64.finite negative x).full =
      some ((Binary64.finite negative x).full ++ ['e', '0']) := by
  obtain ⟨n, inFull, same⟩ := Binary64.exists_inFull_of_finite negative x
  have completed := WrittenNumber.text_completed_of_none inFull.exponent
  rw [same] at completed
  rw [BareType.bareForm?, if_pos rfl]
  exact BareType.doubleForm?_eq_some_iff.2 ⟨n, same, completed⟩

/-- Every finite native value has a bare form. -/
theorem exists_bareForm? {value : Native} (isFinite : value.isFinite = true) :
    ∃ bare, value.type.bareForm? value.written = some bare := by
  cases value using kinds with
  | boolean b => exact ⟨_, bareForm?_boolean b⟩
  | integer i => exact ⟨_, bareForm?_integer i⟩
  | notANumber => cases isFinite
  | infinite negative => cases isFinite
  | finite negative x => exact ⟨_, bareForm?_finite negative x⟩

theorem scalar_written_eq_iff {value : Native} :
    value.scalar.written = value.written ↔ value.isInfinite = false := by
  cases value using kinds with
  | boolean b => exact iff_of_true rfl rfl
  | integer i => exact iff_of_true rfl rfl
  | notANumber => exact iff_of_true rfl rfl
  | infinite negative => cases negative <;> decide
  | finite negative x => exact iff_of_true rfl rfl

theorem nul_not_mem_scalar (value : Native) : '\x00' ∉ value.scalar.written := by
  cases value using kinds with
  | boolean b => exact BareType.nul_not_mem_of_bareForm? (bareForm?_boolean b)
  | integer i => exact BareType.nul_not_mem_of_bareForm? (bareForm?_integer i)
  | notANumber => decide
  | infinite negative => cases negative <;> decide
  | finite negative x => exact BareType.nul_not_mem_of_bareForm? (bareForm?_finite negative x)

end Native

namespace Term

/-- The road of typed literals never refuses the text of a native value. -/
theorem build_scalar (value : Native) :
    (Recipe.literal value.scalar (some (.uri (Vocabulary.xsd ++ value.type.localName)))).build =
      .ok (.literal (.xsd value.scalar.written value.type)) := by
  rw [Recipe.build, Literal.typed_xsd value.type value.nul_not_mem_scalar]
  rfl

/-- The checked way makes the same literal, but for the infinities. -/
theorem build_scalar_eq_iff {value : Native} :
    (Recipe.literal value.scalar (some (.uri (Vocabulary.xsd ++ value.type.localName)))).build =
      .ok (ofNative value) ↔ value.isInfinite = false := by
  rw [build_scalar, ofNative, ← Native.scalar_written_eq_iff]
  constructor
  · intro same
    exact congrArg Literal.value (Term.literal.inj (Except.ok.inj same))
  · intro same
    rw [same]

theorem format_ofNative {value : Native} {bare : Text}
    (found : value.type.bareForm? value.written = some bare) : (ofNative value).format = bare :=
  Literal.format_of_bareForm? found

theorem format_boolean (b : Bool) :
    (ofNative (.boolean b)).format = Native.written (.boolean b) :=
  format_ofNative (Native.bareForm?_boolean b)

theorem format_integer (i : Int) : (ofNative (.integer i)).format = Number.ofInt i :=
  format_ofNative (Native.bareForm?_integer i)

theorem format_finite (negative : Bool) (x : Magnitude) :
    (ofNative (.double (.finite negative x))).format =
      (Binary64.finite negative x).full ++ ['e', '0'] :=
  format_ofNative (Native.bareForm?_finite negative x)

theorem format_notANumber :
    (ofNative (.double .notANumber)).format =
      "'NaN'^^<".toList ++ Vocabulary.xsd ++ "double>".toList := rfl

theorem format_infinite (negative : Bool) :
    (ofNative (.double (.infinite negative))).format =
      "'".toList ++ Number.sign negative ++ "INF'^^<".toList ++ Vocabulary.xsd ++
        "double>".toList := by
  cases negative <;> rfl

/-- What is not finite is quoted, and no bare value holds an apostrophe. -/
theorem not_accepts_format {value : Native} (type : BareType) (special : value.isFinite = false) :
    ¬ type.accepts (ofNative value).format = true := by
  suffices apostrophe : '\'' ∈ (ofNative value).format by
    intro accepted
    exact absurd (BareType.isBareChar_of_accepts accepted '\'' apostrophe) (by decide)
  cases value using Native.kinds with
  | boolean b => cases special
  | integer i => cases special
  | notANumber =>
      rw [format_notANumber]
      exact List.mem_cons_self
  | infinite negative =>
      rw [format_infinite]
      exact List.mem_cons_self
  | finite negative x => cases special

/-- What is written is a bare value of its own type, and only of a finite one. -/
theorem accepts_format_iff {value : Native} {type : BareType} :
    type.accepts (ofNative value).format = true ↔
      type = value.type ∧ value.isFinite = true := by
  cases isFinite : value.isFinite with
  | false =>
      apply iff_of_false (not_accepts_format type isFinite)
      exact fun both => Bool.false_ne_true both.2
  | true =>
      obtain ⟨bare, found⟩ := Native.exists_bareForm? isFinite
      have accepted := BareType.accepts_of_bareForm? found
      rw [format_ofNative found]
      constructor
      · intro also
        exact ⟨BareType.eq_of_accepts also accepted, rfl⟩
      · rintro ⟨rfl, _⟩
        exact accepted

/-- **Native values take the road of typed literals.**  The unchecked term is the one that the
value as text makes under the full URI of its datatype, the infinities apart.  It is written bare
exactly when the value is finite, and then as a bare value of its own type alone.  The bare text
denotes the truth value or the integer; of a finite double it is the decimal in full with the
exponent `e0`, and denotes that decimal.  The special doubles are quoted under their names. -/
theorem ofNative_typed :
    (∀ value : Native,
        (Recipe.literal value.scalar
            (some (.uri (Vocabulary.xsd ++ value.type.localName)))).build = .ok (ofNative value) ↔
          value.isInfinite = false) ∧
      (∀ (value : Native) (type : BareType),
        type.accepts (ofNative value).format = true ↔
          type = value.type ∧ value.isFinite = true) ∧
      (∀ b : Bool, truthValue? (ofNative (.boolean b)).format = some b) ∧
      (∀ (i : Int) (q : ℚ),
        WrittenNumber.Denotes (ofNative (.integer i)).format q ↔ q = i) ∧
      (∀ (negative : Bool) (x : Magnitude),
        (ofNative (.double (.finite negative x))).format =
            (Binary64.finite negative x).full ++ "e0".toList ∧
          ∃ n : WrittenNumber, n.text = (Binary64.finite negative x).full ∧
            (x.shortest .upward).InFull (Sign.ofNegative negative) n ∧
            ∀ q : ℚ, WrittenNumber.Denotes (ofNative (.double (.finite negative x))).format q ↔
              q = n.value) ∧
      (ofNative (.double .notANumber)).format =
          "'NaN'^^<".toList ++ Vocabulary.xsd ++ "double>".toList ∧
      (∀ negative : Bool, (ofNative (.double (.infinite negative))).format =
        "'".toList ++ Number.sign negative ++ "INF'^^<".toList ++ Vocabulary.xsd ++
          "double>".toList) := by
  refine ⟨fun value => build_scalar_eq_iff, fun value type => accepts_format_iff, ?_, ?_, ?_,
    format_notANumber, format_infinite⟩
  · intro b
    rw [format_boolean]
    cases b <;> rfl
  · intro i q
    rw [format_integer, ← WrittenNumber.text_ofInt, WrittenNumber.denotes_text_iff,
      WrittenNumber.value_ofInt]
  · intro negative x
    obtain ⟨n, inFull, same⟩ := Binary64.exists_inFull_of_finite negative x
    refine ⟨format_finite negative x, n, same, inFull, fun q => ?_⟩
    rw [format_finite, ← same, ← WrittenNumber.text_completed_of_none inFull.exponent,
      WrittenNumber.denotes_text_iff, WrittenNumber.value_completed]

example : (ofNative (.double (.ofBits 0x4004000000000000))).format = "2.5e0".toList := by
  decide +kernel

end Term

end SparqlRequest
