/-
# Lexical.Safety -- texts that no statement can carry

A string value must not hold NUL.  A URI must not hold NUL, a line feed, or the angle
bracket that would end it early.
-/
import SparqlRequest.Error

set_option autoImplicit false

namespace SparqlRequest.Lexical

/-- The characters that would let a URI break out of its angle brackets. -/
def breaksOut (c : Char) : Bool := c = '\x00' || c = '\n' || c = '>'

/-- Passes a string value without NUL. -/
def checkString (value : Text) : Except Error Text :=
  if value.contains '\x00' then .error .nulInLiteral else .ok value

/-- Passes a URI that stays between its angle brackets. -/
def checkUri (uri : Text) : Except Error Text :=
  if uri.any breaksOut then .error (.suspiciousIri uri) else .ok uri

theorem checkString_eq_ok_iff {value passed : Text} :
    checkString value = .ok passed ↔ '\x00' ∉ value ∧ value = passed := by
  by_cases nul : '\x00' ∈ value
  · simp [checkString, nul]
  · simp [checkString, nul]

theorem checkUri_eq_ok_iff {uri passed : Text} :
    checkUri uri = .ok passed ↔ (∀ c ∈ uri, breaksOut c = false) ∧ uri = passed := by
  by_cases breaks : uri.any breaksOut = true
  · have broken : ¬ ∀ c ∈ uri, breaksOut c = false := by
      obtain ⟨c, member, isBad⟩ := List.any_eq_true.1 breaks
      intro safe
      rw [safe c member] at isBad
      cases isBad
    simp [checkUri, breaks, broken]
  · have safe : ∀ c ∈ uri, breaksOut c = false := by simpa using breaks
    simp only [checkUri, if_neg breaks, Except.ok.injEq]
    exact ⟨fun same => ⟨safe, same⟩, fun both => both.2⟩

end SparqlRequest.Lexical
