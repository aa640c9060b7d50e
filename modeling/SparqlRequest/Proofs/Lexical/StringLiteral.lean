/-
# Proofs.Lexical.StringLiteral -- a quoted text is one string literal of the grammar

SPARQL 1.1 derives string literals by four productions: between single marks or between
triples of them, with apostrophes or with quotation marks (`StringProduction`).  A
scanner takes the longest prefix of what is before it that one of them derives
(`IsLongestLiteral`).

`quote` writes exactly one literal.  Its body is a sequence of units, one for each
character of the text: the character itself, or a backslash and a letter.  A literal of
the grammar that begins where the quoted text begins has to follow these units one by one
(`eq_escape_of_mem_kstar`): no unit begins with a quotation mark or an apostrophe, and
where the body ends the closing delimiter leaves the grammar no way to go on.  So the
scanner takes the quoted text and nothing of what follows (`derives_prefix_quote`), and
the units are undone by `unescape`.

The one exception is the empty text, written as two apostrophes: a third one behind it
would open a longer literal.
-/
import SparqlRequest.Proofs.Lexical.Escape
import SparqlRequest.Proofs.Pattern.Language

set_option autoImplicit false

namespace SparqlRequest.Lexical

open Pattern
open scoped Computability

/-! ## The productions -/

/-- The productions of string literals. -/
inductive StringProduction where
  /-- `STRING_LITERAL1` -/
  | literal1
  /-- `STRING_LITERAL2` -/
  | literal2
  /-- `STRING_LITERAL_LONG1` -/
  | longLiteral1
  /-- `STRING_LITERAL_LONG2` -/
  | longLiteral2
  deriving DecidableEq, Repr

def escapePattern : Pattern := .seq (.char '\\') (.one fun c => "tbnrf\\\"'".toList.contains c)

/-- A character of a class, or an escape sequence. -/
def unitPattern (plain : Char → Bool) : Pattern := .alt (.one plain) escapePattern

namespace StringProduction

/-- The mark of which the delimiter is made. -/
def mark : StringProduction → Char
  | .literal1 | .longLiteral1 => '\''
  | .literal2 | .longLiteral2 => '"'

/-- The delimiter is three marks. -/
def isLong : StringProduction → Bool
  | .literal1 | .literal2 => false
  | .longLiteral1 | .longLiteral2 => true

def delimiter (p : StringProduction) : Text :=
  if p.isLong then [p.mark, p.mark, p.mark] else [p.mark]

/-- What a body repeats: between single marks a unit that is no line end, between triples
up to two marks and a unit behind them. -/
def item (p : StringProduction) : Pattern :=
  if p.isLong then
    .seq (.optional (.alt (.char p.mark) (.word [p.mark, p.mark])))
      (unitPattern fun c => c ≠ p.mark && c ≠ '\\')
  else unitPattern fun c => c ≠ p.mark && c ≠ '\\' && c ≠ '\n' && c ≠ '\r'

def pattern (p : StringProduction) : Pattern :=
  .all [.word p.delimiter, .star p.item, .word p.delimiter]

def Derives (p : StringProduction) (t : Text) : Prop := t ∈ p.pattern.language

instance (p : StringProduction) (t : Text) : Decidable (p.Derives t) :=
  decidable_of_iff (p.pattern.matchesAll t = true) matchesAll_iff

theorem isQuoteMark_mark (p : StringProduction) : isQuoteMark p.mark = true := by
  cases p <;> rfl

theorem eq_of_mark_of_isLong {p q : StringProduction} (mark : p.mark = q.mark)
    (isLong : p.isLong = q.isLong) : p = q := by
  revert mark isLong
  cases p <;> cases q <;> decide

theorem derives_iff {p : StringProduction} {t : Text} :
    p.Derives t ↔ ∃ body ∈ p.item.language∗, t = p.delimiter ++ (body ++ p.delimiter) := by
  simp only [Derives, pattern, mem_language_all_cons, mem_language_all_nil, mem_language_word]
  constructor
  · rintro ⟨_, rfl, _, ⟨body, inside, _, ⟨_, rfl, _, rfl, rfl⟩, rfl⟩, rfl⟩
    exact ⟨body, inside, by simp⟩
  · rintro ⟨body, inside, rfl⟩
    exact ⟨_, rfl, _, ⟨body, inside, _, ⟨_, rfl, _, rfl, rfl⟩, rfl⟩, by simp⟩

def ofDelimiter : Delimiter → StringProduction
  | .apostrophe => .literal1
  | .quotationMark => .literal2
  | .tripled => .longLiteral2

theorem delimiter_ofDelimiter (d : Delimiter) : (ofDelimiter d).delimiter = d.text := by
  cases d <;> rfl

end StringProduction

/-! ## Following a body unit by unit -/

theorem mem_unitPattern {plain : Char → Bool} {t : Text} :
    t ∈ (unitPattern plain).language ↔
      (∃ c, plain c = true ∧ t = [c]) ∨
        ∃ letter ∈ "tbnrf\\\"'".toList, t = ['\\', letter] := by
  simp only [unitPattern, escapePattern, mem_language_alt, mem_language_seq, mem_language_one,
    mem_language_char, List.contains_eq_mem, decide_eq_true_eq]
  constructor
  · rintro (plainUnit | ⟨_, rfl, _, ⟨letter, known, rfl⟩, rfl⟩)
    · exact Or.inl plainUnit
    · exact Or.inr ⟨letter, known, rfl⟩
  · rintro (plainUnit | ⟨letter, known, rfl⟩)
    · exact Or.inl plainUnit
    · exact Or.inr ⟨_, rfl, _, ⟨letter, known, rfl⟩, rfl⟩

/-- The body of a quoted text is made of units, whatever class contains its plain
characters. -/
theorem escapeChar_mem_unitPattern {plain : Char → Bool} {c : Char}
    (isPlain : escapeLetter? c = none → plain c = true) :
    escapeChar c ∈ (unitPattern plain).language := by
  rcases escapeChar_eq c with ⟨unescaped, written⟩ | ⟨letter, found, written⟩
  · exact mem_unitPattern.2 (Or.inl ⟨c, isPlain unescaped, written⟩)
  · exact mem_unitPattern.2 (Or.inr ⟨letter, escapeLetter?_known found, written⟩)

theorem unit_head {plain : Char → Bool} {mark : Char} (quoteMark : isQuoteMark mark = true)
    (excluded : plain mark = false) {unit : Text} (inside : unit ∈ (unitPattern plain).language) :
    ∃ c rest, unit = c :: rest ∧ c ≠ mark := by
  rcases mem_unitPattern.1 inside with ⟨c, isPlain, rfl⟩ | ⟨letter, _, rfl⟩
  · refine ⟨c, [], rfl, ?_⟩
    rintro rfl
    rw [isPlain] at excluded
    cases excluded
  · refine ⟨'\\', [letter], rfl, ?_⟩
    rintro rfl
    exact absurd quoteMark (by decide)

/-- A unit that begins where a character was written is what was written for the character. -/
theorem unit_follows {plain : Char → Bool} (noBackslash : plain '\\' = false) {unit : Text}
    (inside : unit ∈ (unitPattern plain).language) {c : Char} {rest rest' : Text}
    (same : escapeChar c ++ rest = unit ++ rest') : unit = escapeChar c := by
  rcases mem_unitPattern.1 inside with ⟨d, isPlain, rfl⟩ | ⟨letter, _, rfl⟩
  · rcases escapeChar_eq c with ⟨_, written⟩ | ⟨_, _, written⟩
    · rw [written] at same ⊢
      rw [(List.cons.inj same).1]
    · rw [written] at same
      obtain ⟨rfl, _⟩ := List.cons.inj same
      rw [isPlain] at noBackslash
      cases noBackslash
  · rcases escapeChar_eq c with ⟨unescaped, written⟩ | ⟨_, _, written⟩
    · rw [written] at same
      obtain ⟨rfl, _⟩ := List.cons.inj same
      exact absurd unescaped (by decide)
    · rw [written] at same ⊢
      obtain ⟨_, later⟩ := List.cons.inj same
      rw [(List.cons.inj later).1]

namespace StringProduction

/-- An item that begins where a character of the body was written is the unit of that
character. -/
theorem item_follows {p : StringProduction} {part : Text} (inside : part ∈ p.item.language)
    {c : Char} {rest rest' : Text} (same : escapeChar c ++ rest = part ++ rest') :
    part = escapeChar c := by
  unfold item at inside
  split at inside
  · obtain ⟨marks, isMarks, unit, isUnit, rfl⟩ := mem_language_seq.1 inside
    obtain ⟨d, tail, written⟩ := List.exists_cons_of_ne_nil (escapeChar_ne_nil c)
    have noMark : d ≠ p.mark := ne_of_escapeChar p.isQuoteMark_mark written
    simp only [mem_language_optional, mem_language_alt, mem_language_char,
      mem_language_word] at isMarks
    rcases isMarks with (rfl | rfl) | rfl
    · rw [written] at same
      exact absurd (List.cons.inj same).1 noMark
    · rw [written] at same
      exact absurd (List.cons.inj same).1 noMark
    · exact unit_follows (by simp) isUnit same
  · exact unit_follows (by simp) inside same

/-- An item never begins where the delimiter stands. -/
theorem item_ne_delimiter {p : StringProduction} {part : Text} (inside : part ∈ p.item.language)
    (rest rest' : Text) : p.delimiter ++ rest ≠ part ++ rest' := by
  intro same
  unfold item at inside
  unfold delimiter at same
  split at inside
  · rename_i long
    rw [if_pos long] at same
    obtain ⟨marks, isMarks, unit, isUnit, rfl⟩ := mem_language_seq.1 inside
    obtain ⟨c, tail, rfl, noMark⟩ := unit_head p.isQuoteMark_mark (by simp) isUnit
    simp only [mem_language_optional, mem_language_alt, mem_language_char,
      mem_language_word] at isMarks
    -- the unit stands at the first, second or third of the three marks
    rcases isMarks with (rfl | rfl) | rfl <;> simp_all
  · rename_i short
    rw [if_neg short] at same
    obtain ⟨c, tail, rfl, noMark⟩ := unit_head p.isQuoteMark_mark (by simp) inside
    exact noMark (List.cons.inj same).1.symm

theorem head?_delimiter_append (p : StringProduction) (rest : Text) :
    (p.delimiter ++ rest).head? = some p.mark := by
  unfold delimiter
  split <;> rfl

/-- Characters of the body never begin the delimiter. -/
theorem escapeChar_ne_delimiter (p : StringProduction) (c : Char) (rest rest' : Text) :
    escapeChar c ++ rest ≠ p.delimiter ++ rest' := by
  intro same
  obtain ⟨d, tail, written⟩ := List.exists_cons_of_ne_nil (escapeChar_ne_nil c)
  have heads := congrArg List.head? same
  rw [head?_delimiter_append, written] at heads
  exact ne_of_escapeChar p.isQuoteMark_mark written (Option.some.inj heads)

/-- A body of the grammar that begins with the body of a quoted text, and ends at a
delimiter, is that body. -/
theorem eq_escape_of_mem_kstar {p : StringProduction} {s body u u' : Text}
    (inside : body ∈ p.item.language∗)
    (same : escape s ++ (p.delimiter ++ u) = body ++ (p.delimiter ++ u')) : body = escape s := by
  induction s generalizing body with
  | nil =>
      rcases mem_kstar_iff_nil_or.1 inside with rfl | ⟨part, isItem, _, later, _, rfl⟩
      · rfl
      · rw [escape_nil, List.nil_append, List.append_assoc] at same
        exact absurd same (item_ne_delimiter isItem _ _)
  | cons c s ih =>
      rw [escape_cons, List.append_assoc] at same
      rcases mem_kstar_iff_nil_or.1 inside with rfl | ⟨part, isItem, _, later, inLater, rfl⟩
      · exact absurd same (escapeChar_ne_delimiter p c _ _)
      · rw [List.append_assoc] at same
        obtain rfl := item_follows isItem same
        rw [ih inLater (List.append_cancel_left same), escape_cons]

end StringProduction

/-! ## What the choice of a delimiter says about the text -/

/-- Single marks are chosen only for texts without a line end. -/
theorem not_mem_lineFeed_of_choose {s : Text} (single : Delimiter.choose s ≠ .tripled) :
    '\n' ∉ s := by
  intro member
  apply single
  simp [Delimiter.choose, member]

theorem quote_eq (s : Text) :
    quote s =
      (StringProduction.ofDelimiter (Delimiter.choose s)).delimiter ++
        (escape s ++ (StringProduction.ofDelimiter (Delimiter.choose s)).delimiter) := by
  rw [StringProduction.delimiter_ofDelimiter, quote, List.append_assoc]

theorem quote_head (s : Text) : ∃ c rest, quote s = c :: rest ∧ isQuoteMark c = true := by
  have head := StringProduction.head?_delimiter_append
    (StringProduction.ofDelimiter (Delimiter.choose s))
    (escape s ++ (StringProduction.ofDelimiter (Delimiter.choose s)).delimiter)
  rw [← quote_eq] at head
  obtain ⟨rest, written⟩ := List.head?_eq_some_iff.1 head
  exact ⟨_, rest, written, StringProduction.isQuoteMark_mark _⟩

theorem mem_quote {c : Char} {s : Text} (member : c ∈ quote s) :
    isQuoteMark c = true ∨ c ∈ escape s := by
  have marks : ∀ d : Delimiter, ∀ c ∈ d.text, isQuoteMark c = true := by
    intro d
    cases d <;> exact List.all_eq_true.1 rfl
  simp only [quote, List.mem_append] at member
  rcases member with (inMarks | inBody) | inMarks
  · exact Or.inl (marks _ c inMarks)
  · exact Or.inr inBody
  · exact Or.inl (marks _ c inMarks)

theorem lineFeed_not_mem_quote {s : Text} (single : Delimiter.choose s ≠ .tripled) :
    '\n' ∉ quote s := by
  intro member
  rcases mem_quote member with isMark | inBody
  · exact absurd isMark (by decide)
  · rcases mem_escape inBody with ⟨inText, _⟩ | rare
    · exact not_mem_lineFeed_of_choose single inText
    · exact absurd rare (by decide)

theorem return_not_mem_quote (s : Text) : '\r' ∉ quote s := by
  intro member
  rcases mem_quote member with isMark | inBody
  · exact absurd isMark (by decide)
  · rcases mem_escape inBody with ⟨_, unescaped⟩ | rare
    · exact absurd unescaped (by decide)
    · exact absurd rare (by decide)

/-! ## A quoted text is derived -/

/-- Each character of a text is written as an item, unless a line end would stand between
single marks. -/
theorem escapeChar_mem_item {p : StringProduction} {c : Char}
    (lineEnd : p.isLong = false → c ≠ '\n') : escapeChar c ∈ p.item.language := by
  have unescaped : escapeLetter? c = none → c ≠ p.mark ∧ c ≠ '\\' ∧ c ≠ '\r' := by
    intro plain
    have written : escapeChar c = [c] := by simp [escapeChar, plain]
    refine ⟨ne_of_escapeChar p.isQuoteMark_mark written, ?_, ?_⟩
    · rintro rfl
      exact absurd plain (by decide)
    · rintro rfl
      exact absurd plain (by decide)
  unfold StringProduction.item
  split
  · refine mem_language_seq.2 ⟨[], mem_language_optional.2 (Or.inr rfl), _,
      escapeChar_mem_unitPattern fun plain => ?_, rfl⟩
    simp [unescaped plain]
  · rename_i short
    refine escapeChar_mem_unitPattern fun plain => ?_
    simp [unescaped plain, lineEnd (Bool.not_eq_true _ ▸ short)]

/-- The production of the chosen delimiter derives the quoted text. -/
theorem derives_quote (s : Text) :
    (StringProduction.ofDelimiter (Delimiter.choose s)).Derives (quote s) := by
  refine StringProduction.derives_iff.2 ⟨escape s, ?_, quote_eq s⟩
  rw [escape, List.flatMap_def]
  refine Language.join_mem_kstar fun part member => ?_
  obtain ⟨c, inText, rfl⟩ := List.mem_map.1 member
  refine escapeChar_mem_item fun short => ?_
  have single : Delimiter.choose s ≠ .tripled := by
    intro tripled
    rw [tripled] at short
    cases short
  rintro rfl
  exact not_mem_lineFeed_of_choose single inText

/-! ## Nothing longer is derived -/

namespace StringProduction

/-- A single delimiter is not doubled, unless what follows the empty text doubles it. -/
theorem not_doubled {s u : Text} {mark : Char} (quoteMark : isQuoteMark mark = true)
    (separate : s = [] → u.head? ≠ some mark) (rest : Text) :
    escape s ++ mark :: u ≠ mark :: mark :: rest := by
  intro same
  cases s with
  | nil =>
      rw [escape_nil, List.nil_append] at same
      apply separate rfl
      rw [(List.cons.inj same).2]
      rfl
  | cons c s =>
      obtain ⟨d, tail, written⟩ := List.exists_cons_of_ne_nil (escapeChar_ne_nil c)
      rw [escape_cons, written] at same
      exact ne_of_escapeChar quoteMark written (List.cons.inj same).1

/-- A body between single marks is over at the next mark. -/
theorem body_eq_nil {p : StringProduction} (short : p.isLong = false) {body rest rest' : Text}
    (inside : body ∈ p.item.language∗) (same : body ++ rest = p.mark :: rest') : body = [] := by
  rcases mem_kstar_iff_nil_or.1 inside with rfl | ⟨part, isItem, _, later, _, rfl⟩
  · rfl
  · have single : p.delimiter = [p.mark] := by
      simp [delimiter, short]
    have collision : p.delimiter ++ rest' = part ++ (later ++ rest) := by
      rw [single, ← List.append_assoc]
      exact same.symm
    exact absurd collision (item_ne_delimiter isItem _ _)

/-- A derived prefix of a quoted text and its continuation is the quoted text, by the
production of its delimiter, or it is shorter. -/
theorem derives_prefix_quote {p : StringProduction} {s front u : Text}
    (separate : s = [] → u.head? ≠ some '\'') (derived : p.Derives front)
    (isFront : front <+: quote s ++ u) :
    (p = ofDelimiter (Delimiter.choose s) ∧ front = quote s) ∨
      front.length < (quote s).length := by
  obtain ⟨body, inside, rfl⟩ := derives_iff.1 derived
  obtain ⟨behind, same⟩ := isFront
  have sameText : p.delimiter ++ (body ++ (p.delimiter ++ behind)) = quote s ++ u := by
    rw [← same, List.append_assoc, List.append_assoc]
  have written := quote_eq s
  have separate' : s = [] → u.head? ≠ some (ofDelimiter (Delimiter.choose s)).mark := by
    rintro rfl
    exact separate rfl
  generalize ofDelimiter (Delimiter.choose s) = q at written separate' ⊢
  rw [written, List.append_assoc, List.append_assoc] at sameText
  have sameMark : p.mark = q.mark := by
    have heads := congrArg List.head? sameText
    rw [head?_delimiter_append, head?_delimiter_append] at heads
    exact Option.some.inj heads
  by_cases sameLength : p.isLong = q.isLong
  · obtain rfl : p = q := eq_of_mark_of_isLong sameMark sameLength
    have sameBody := eq_escape_of_mem_kstar inside (List.append_cancel_left sameText).symm
    exact Or.inl ⟨rfl, by rw [sameBody, written]⟩
  · cases isLong : p.isLong with
    | false =>
        -- the opening triple of the quoted text is an empty literal and one more mark
        have isLong' : q.isLong = true := by simpa [isLong] using sameLength
        have single : p.delimiter = [q.mark] := by simp [delimiter, isLong, sameMark]
        have triple : q.delimiter = [q.mark, q.mark, q.mark] := by simp [delimiter, isLong']
        rw [single, triple] at sameText
        have empty : body = [] :=
          body_eq_nil isLong inside (sameMark ▸ (List.cons.inj sameText).2)
        right
        rw [empty, written, single, triple]
        simp
    | true =>
        have isLong' : q.isLong = false := by simpa [isLong] using sameLength
        have triple : p.delimiter = [q.mark, q.mark, q.mark] := by
          simp [delimiter, isLong, sameMark]
        have single : q.delimiter = [q.mark] := by simp [delimiter, isLong']
        rw [single, triple] at sameText
        exact absurd (List.cons.inj sameText).2.symm
          (not_doubled q.isQuoteMark_mark separate' _)

end StringProduction

/-- No prefix of the text that a production derives is longer than `front`, which is one. -/
structure IsLongestLiteral (t front : Text) : Prop where
  isFront : front <+: t
  derived : ∃ p : StringProduction, p.Derives front
  longest : ∀ other, other <+: t → (∃ p : StringProduction, p.Derives other) →
    other.length ≤ front.length

theorem isLongestLiteral_quote {s u : Text} (separate : s = [] → u.head? ≠ some '\'') :
    IsLongestLiteral (quote s ++ u) (quote s) where
  isFront := List.prefix_append _ _
  derived := ⟨_, derives_quote s⟩
  longest := by
    rintro other isFront ⟨p, derived⟩
    rcases StringProduction.derives_prefix_quote separate derived isFront with ⟨_, rfl⟩ | shorter
    · exact le_rfl
    · exact shorter.le

/-- A scanner has no choice: two longest literals of one text are the same. -/
theorem IsLongestLiteral.unique {t a b : Text} (first : IsLongestLiteral t a)
    (second : IsLongestLiteral t b) : a = b := by
  have sameLength : a.length = b.length :=
    le_antisymm (second.longest a first.isFront first.derived)
      (first.longest b second.isFront second.derived)
  exact (List.prefix_of_prefix_length_le first.isFront second.isFront sameLength.le).eq_of_length
    sameLength

/-! ## Reading a quoted text in front of anything -/

theorem choose_eq_of_quote_eq {s t : Text} (same : quote s = quote t) :
    StringProduction.ofDelimiter (Delimiter.choose s) =
      StringProduction.ofDelimiter (Delimiter.choose t) := by
  have isFront : quote s <+: quote t ++ [] := by
    rw [same, List.append_nil]
  rcases StringProduction.derives_prefix_quote (fun _ => by simp) (derives_quote s) isFront with
    ⟨sameProduction, _⟩ | shorter
  · exact sameProduction
  · rw [same] at shorter
    exact absurd shorter (lt_irrefl _)

/-- Quoted texts are told apart, and apart from what follows them. -/
theorem quote_append_inj {s t u v : Text} (separate : u.head? ≠ some '\'')
    (separate' : v.head? ≠ some '\'') (same : quote s ++ u = quote t ++ v) : s = t ∧ u = v := by
  have sameQuote : quote s = quote t :=
    IsLongestLiteral.unique (isLongestLiteral_quote fun _ => separate)
      (same ▸ isLongestLiteral_quote fun _ => separate')
  have sameProduction := choose_eq_of_quote_eq sameQuote
  refine ⟨escape_injective ?_, ?_⟩
  · rw [quote_eq, quote_eq, sameProduction] at sameQuote
    exact List.append_cancel_right (List.append_cancel_left sameQuote)
  · rw [sameQuote] at same
    exact List.append_cancel_left same

/-- **A quoted text is one string literal.**  In front of any continuation the scanner takes
it whole and nothing else, by the production of its delimiter alone; single marks never
surround a line end, and its body stands for the text. -/
theorem quote_is_one_literal (s u : Text) (separate : s = [] → u.head? ≠ some '\'') :
    (∀ front, IsLongestLiteral (quote s ++ u) front ↔ front = quote s) ∧
      (∀ p : StringProduction,
        p.Derives (quote s) ↔ p = StringProduction.ofDelimiter (Delimiter.choose s)) ∧
      (Delimiter.choose s ≠ .tripled → '\n' ∉ quote s ∧ '\r' ∉ quote s) ∧
      ∃ body, quote s = (Delimiter.choose s).text ++ body ++ (Delimiter.choose s).text ∧
        unescape body = some s := by
  refine ⟨fun front => ⟨fun found => ?_, ?_⟩, fun p => ⟨fun derived => ?_, ?_⟩, fun single => ?_,
    escape s, rfl, unescape_escape s⟩
  · exact found.unique (isLongestLiteral_quote separate)
  · rintro rfl
    exact isLongestLiteral_quote separate
  · rcases StringProduction.derives_prefix_quote separate derived (List.prefix_append _ _) with
      ⟨isChosen, _⟩ | shorter
    · exact isChosen
    · exact absurd shorter (lt_irrefl _)
  · rintro rfl
    exact derives_quote s
  · exact ⟨lineFeed_not_mem_quote single, return_not_mem_quote s⟩

/-- The empty text is the one that needs care: here a mark of the other kind, three
apostrophes and a line end follow it.  A text of escapes and a line feed is read whole in
front of three more marks of its own delimiter. -/
theorem quote_is_one_literal_marks :
    ("\"'''\n".toList.head? ≠ some '\'' ∧
        ∀ front, IsLongestLiteral ("''".toList ++ "\"'''\n".toList) front ↔ front = "''".toList) ∧
      (∀ front, IsLongestLiteral
          ("\"\"\"\\\\\n\\'\\\"\\r\"\"\"".toList ++ "\"\"\"".toList) front ↔
            front = "\"\"\"\\\\\n\\'\\\"\\r\"\"\"".toList) ∧
      (∀ p : StringProduction,
        p.Derives "\"\"\"\\\\\n\\'\\\"\\r\"\"\"".toList ↔ p = .longLiteral2) ∧
      ('\n' ∉ "'a\\\"b\\r'".toList ∧ '\r' ∉ "'a\\\"b\\r'".toList) ∧
      ∃ body, "\"\"\"\\\\\n\\'\\\"\\r\"\"\"".toList =
          "\"\"\"".toList ++ body ++ "\"\"\"".toList ∧ unescape body = some "\\\n'\"\r".toList := by
  have empty := quote_is_one_literal [] "\"'''\n".toList fun _ => by decide
  have marks := quote_is_one_literal "\\\n'\"\r".toList "\"\"\"".toList fun none => by cases none
  have single := quote_is_one_literal "a\"b\r".toList [] fun none => by cases none
  have written : quote "\\\n'\"\r".toList = "\"\"\"\\\\\n\\'\\\"\\r\"\"\"".toList := by decide
  have writtenSingle : quote "a\"b\r".toList = "'a\\\"b\\r'".toList := by decide
  rw [written] at marks
  rw [writtenSingle] at single
  exact ⟨⟨by decide, empty.1⟩, marks.1, marks.2.1, single.2.2.1 (by decide), marks.2.2.2⟩

end SparqlRequest.Lexical
