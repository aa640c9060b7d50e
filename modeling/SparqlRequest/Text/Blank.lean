/-
# Text.Blank -- white space

White space is the Unicode property White_Space: twenty-five characters, of which
the Ogham space mark, the en and em family, and the ideographic space lie outside
Latin.  The same set decides what a placeholder must be followed by, what stands
between the clauses of a prologue, and what an empty reply body may hold.
-/
import SparqlRequest.Text.Basic

set_option autoImplicit false

namespace SparqlRequest.Text

/-- The code points with the property White_Space. -/
def blankCodes : List Nat :=
  [0x09, 0x0A, 0x0B, 0x0C, 0x0D, 0x20, 0x85, 0xA0, 0x1680,
   0x2000, 0x2001, 0x2002, 0x2003, 0x2004, 0x2005, 0x2006, 0x2007, 0x2008, 0x2009, 0x200A,
   0x2028, 0x2029, 0x202F, 0x205F, 0x3000]

def isBlank (c : Char) : Bool := blankCodes.contains c.toNat

def skipBlanks (t : Text) : Text := t.dropWhile isBlank

def startsBlank : Text → Bool
  | [] => false
  | c :: _ => isBlank c

def allBlank (t : Text) : Bool := t.all isBlank

theorem skipBlanks_length_le (t : Text) : (skipBlanks t).length ≤ t.length :=
  (List.dropWhile_sublist isBlank).length_le

theorem skipBlanks_of_not_startsBlank {t : Text} (plain : startsBlank t = false) :
    skipBlanks t = t := by
  cases t with
  | nil => rfl
  | cons c t =>
      simp only [startsBlank] at plain
      simp [skipBlanks, plain]

theorem startsBlank_skipBlanks (t : Text) : startsBlank (skipBlanks t) = false := by
  induction t with
  | nil => rfl
  | cons c t ih =>
      by_cases white : isBlank c = true
      · simpa [skipBlanks, white] using ih
      · simp [skipBlanks, startsBlank, white]

end SparqlRequest.Text
