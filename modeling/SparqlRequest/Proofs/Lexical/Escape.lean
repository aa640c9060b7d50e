/-
# Proofs.Lexical.Escape -- the units of an escaped text, and how they are undone

An escaped text is a sequence of units, one for each character: the character itself, or
a backslash and a letter.  No unit begins with a quotation mark or an apostrophe
(`ne_of_escapeChar`), so a delimiter that follows is seen at once, and `unescape` reads
the units back one by one (`unescape_escape`).
-/
import Mathlib.Data.List.Basic
import SparqlRequest.Lexical.Delimiter

set_option autoImplicit false

namespace SparqlRequest.Lexical

/-! ## Units of a body -/

theorem escapeChar_eq (c : Char) :
    (escapeLetter? c = none ∧ escapeChar c = [c]) ∨
      ∃ letter, escapeLetter? c = some letter ∧ escapeChar c = ['\\', letter] := by
  unfold escapeChar
  cases escapeLetter? c with
  | none => exact Or.inl ⟨rfl, rfl⟩
  | some letter => exact Or.inr ⟨letter, rfl, rfl⟩

theorem escapeLetter?_eq_none_iff {c : Char} :
    escapeLetter? c = none ↔ c ∉ ['\\', '\t', '\r', '\x08', '\x0C', '"', '\''] := by
  simp only [escapeLetter?, List.mem_cons, List.not_mem_nil, or_false, not_or]
  repeat' split
  all_goals simp_all

/-- The characters that are escaped, with their letters. -/
def escapeTable : List (Char × Char) :=
  [('\\', '\\'), ('\t', 't'), ('\r', 'r'), ('\x08', 'b'), ('\x0C', 'f'), ('"', '"'),
    ('\'', '\'')]

theorem mem_escapeTable {c letter : Char} (found : escapeLetter? c = some letter) :
    (c, letter) ∈ escapeTable := by
  unfold escapeLetter? at found
  repeat' split at found
  all_goals cases found
  all_goals
    subst c
    decide

/-- A mark that opens or closes literals. -/
def isQuoteMark (c : Char) : Bool := c = '\'' || c = '"'

/-- Neither of the two quotation marks begins what is written for a character. -/
theorem ne_of_escapeChar {c d mark : Char} {rest : Text} (quoteMark : isQuoteMark mark = true)
    (unit : escapeChar c = d :: rest) : d ≠ mark := by
  rintro rfl
  rcases escapeChar_eq c with ⟨plain, written⟩ | ⟨letter, _, written⟩
  · obtain ⟨rfl, _⟩ := List.cons.inj (written.symm.trans unit)
    simp only [isQuoteMark, Bool.or_eq_true, decide_eq_true_eq] at quoteMark
    rw [escapeLetter?_eq_none_iff] at plain
    rcases quoteMark with rfl | rfl <;> simp at plain
  · obtain ⟨rfl, _⟩ := List.cons.inj (written.symm.trans unit)
    simp [isQuoteMark] at quoteMark

theorem escapeChar_ne_nil (c : Char) : escapeChar c ≠ [] := by
  rcases escapeChar_eq c with ⟨_, written⟩ | ⟨letter, _, written⟩ <;> simp [written]

theorem escapeLetter?_known {c letter : Char} (found : escapeLetter? c = some letter) :
    letter ∈ "tbnrf\\\"'".toList := by
  have known : ∀ entry ∈ escapeTable, entry.2 ∈ "tbnrf\\\"'".toList := by decide
  exact known _ (mem_escapeTable found)

/-- A body holds unescaped characters of its text and the parts of escape sequences. -/
theorem mem_escape {c : Char} {s : Text} (member : c ∈ escape s) :
    (c ∈ s ∧ escapeLetter? c = none) ∨ c = '\\' ∨ c ∈ "tbnrf\\\"'".toList := by
  obtain ⟨d, inText, inUnit⟩ := List.mem_flatMap.1 member
  rcases escapeChar_eq d with ⟨plain, written⟩ | ⟨letter, found, written⟩
  · rw [written, List.mem_singleton] at inUnit
    exact Or.inl ⟨inUnit ▸ inText, inUnit ▸ plain⟩
  · rw [written, List.mem_pair] at inUnit
    rcases inUnit with rfl | rfl
    · exact Or.inr (Or.inl rfl)
    · exact Or.inr (Or.inr (escapeLetter?_known found))

/-! ## Undoing the escapes -/

/-- The character that a letter or mark behind a backslash stands for. -/
def escapedBy? (letter : Char) : Option Char :=
  if letter = 't' then some '\t'
  else if letter = 'b' then some '\x08'
  else if letter = 'n' then some '\n'
  else if letter = 'r' then some '\r'
  else if letter = 'f' then some '\x0C'
  else if letter = '\\' then some '\\'
  else if letter = '"' then some '"'
  else if letter = '\'' then some '\''
  else none

/-- The text of a body; none when a backslash begins no escape sequence. -/
def unescape : Text → Option Text
  | [] => some []
  | [c] => if c = '\\' then none else some [c]
  | c :: d :: t =>
      if c = '\\' then (escapedBy? d).bind fun e => (unescape t).map (e :: ·)
      else (unescape (d :: t)).map (c :: ·)

theorem unescape_cons {c : Char} (plain : c ≠ '\\') (t : Text) :
    unescape (c :: t) = (unescape t).map (c :: ·) := by
  cases t with
  | nil => simp [unescape, plain]
  | cons d t => simp [unescape, plain]

theorem unescape_escapeChar_append (c : Char) (t : Text) :
    unescape (escapeChar c ++ t) = (unescape t).map (c :: ·) := by
  rcases escapeChar_eq c with ⟨plain, written⟩ | ⟨letter, found, written⟩
  · have noBackslash : c ≠ '\\' := by
      rintro rfl
      exact absurd plain (by decide)
    rw [written]
    exact unescape_cons noBackslash t
  · have undone : ∀ entry ∈ escapeTable, escapedBy? entry.2 = some entry.1 := by decide
    rw [written]
    simp [unescape, undone _ (mem_escapeTable found)]

/-- Escaping is undone by reading. -/
theorem unescape_escape (s : Text) : unescape (escape s) = some s := by
  induction s with
  | nil => rfl
  | cons c s ih => rw [escape_cons, unescape_escapeChar_append, ih, Option.map_some]

theorem escape_injective {s t : Text} (same : escape s = escape t) : s = t :=
  Option.some.inj (by rw [← unescape_escape s, same, unescape_escape])

end SparqlRequest.Lexical
