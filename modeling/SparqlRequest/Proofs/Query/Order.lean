/-
# Proofs.Query.Order -- bindings whose order does not matter

Each binding rewrites what the bindings before it have left, so in general their order
matters: a replacement can complete a placeholder, or stand where one would have ended.
Bindings are `Independent` if their names are distinct and hold neither a question mark
nor white space, and every replacement begins with a character that is in no name and holds
no question mark.

Then the run of name characters behind a question mark tells alone which placeholder
stands there (`behind?_word`).  A binding changes such a run in one way only, by putting its
replacement where the run has ended at another question mark, and the first character of
the replacement closes it for every name (`behind?_closed`).  So the first binding can be
taken out of the simultaneous replacement and made before it (`replaceAll_cons`), and all
of them in turn are the simultaneous replacement, which does not depend on their order.
-/
import Mathlib.Data.List.Nodup
import SparqlRequest.Proofs.Query.Replacement
import SparqlRequest.Proofs.Text.Word
import SparqlRequest.Query.Basic

set_option autoImplicit false

namespace SparqlRequest.Placeholder

/-! ## Runs of name characters -/

/-- A character that the name of an independent binding can hold. -/
def inName (c : Char) : Bool := !Text.isBlank c && c ≠ '?'

theorem inName_iff {c : Char} : inName c = true ↔ Text.isBlank c = false ∧ c ≠ '?' := by
  simp [inName]

theorem inName_eq_false_iff {c : Char} : inName c = false ↔ Text.isBlank c = true ∨ c = '?' := by
  rw [← Bool.not_eq_true, inName_iff, not_and_or, Bool.not_eq_false, not_not]

theorem unmarked_of_inName {word : Text} (inside : ∀ c ∈ word, inName c = true) : '?' ∉ word :=
  fun member => (inName_iff.1 (inside '?' member)).2 rfl

theorem eq_nil_of_startsBlank {word back : Text} (inside : ∀ c ∈ word, inName c = true)
    (spaced : Text.startsBlank (word ++ back) = true) : word = [] := by
  cases word with
  | nil => rfl
  | cons c word =>
      have plain := (inName_iff.1 (inside c List.mem_cons_self)).1
      rw [List.cons_append, Text.startsBlank, plain] at spaced
      cases spaced

theorem stops_of_startsBlank {back : Text} (spaced : Text.startsBlank back = true) :
    ∀ c ∈ back.head?, inName c = false := by
  intro c atHead
  cases back with
  | nil => cases atHead
  | cons d back =>
      cases atHead
      exact inName_eq_false_iff.2 (Or.inl spaced)

/-- The run of name characters behind a question mark is the name of the placeholder that
stands there. -/
theorem behind?_word {name word back : Text} (plain : ∀ c ∈ name, inName c = true)
    (inside : ∀ c ∈ word, inName c = true) (stops : ∀ c ∈ back.head?, inName c = false) :
    behind? name ('?' :: (word ++ back)) =
      if name = word ∧ Text.startsBlank back = true then some (Text.skipBlanks back) else none := by
  by_cases stands : name = word ∧ Text.startsBlank back = true
  · rw [if_pos stands]
    exact behind?_eq_some_iff.2 ⟨back, by rw [stands.1, mark, List.cons_append], stands.2, rfl⟩
  · rw [if_neg stands, Option.eq_none_iff_forall_ne_some]
    intro rest found
    obtain ⟨back', split, spaced, _⟩ := behind?_eq_some_iff.1 found
    have joined : word ++ back = name ++ back' := List.tail_eq_of_cons_eq split
    rcases List.append_eq_append_iff.1 joined with ⟨more, rfl, rfl⟩ | ⟨more, rfl, rfl⟩
    · -- The name goes on where the run has stopped.
      cases more with
      | nil => exact stands ⟨List.append_nil word, spaced⟩
      | cons c more =>
          have further := plain c (List.mem_append_right word List.mem_cons_self)
          rw [stops c rfl] at further
          cases further
    · -- The name ends inside the run, and no white space follows it there.
      have ended : more = [] := by
        apply eq_nil_of_startsBlank _ spaced
        exact fun c member => inside c (List.mem_append_right name member)
      subst ended
      exact stands ⟨(List.append_nil name).symm, spaced⟩

/-- A character that is in no name closes the run, so that no placeholder stands there. -/
theorem behind?_closed {name word back : Text} {c : Char} (inside : ∀ d ∈ word, inName d = true)
    (closing : inName c = true) (foreign : c ∉ name) :
    behind? name ('?' :: (word ++ c :: back)) = none := by
  rw [Option.eq_none_iff_forall_ne_some]
  intro rest found
  obtain ⟨back', split, spaced, _⟩ := behind?_eq_some_iff.1 found
  have joined : word ++ c :: back = name ++ back' := List.tail_eq_of_cons_eq split
  rcases List.append_eq_append_iff.1 joined with ⟨more, rfl, same⟩ | ⟨more, rfl, rfl⟩
  · cases more with
    | nil =>
        rw [List.nil_append] at same
        rw [← same, Text.startsBlank, (inName_iff.1 closing).1] at spaced
        cases spaced
    | cons d more =>
        obtain ⟨rfl, _⟩ := List.cons.inj same
        exact foreign (List.mem_append_right word List.mem_cons_self)
  · have run : ∀ d ∈ more ++ [c], inName d = true := by
      rw [List.forall_mem_append, List.forall_mem_singleton]
      exact ⟨fun d member => inside d (List.mem_append_right name member), closing⟩
    rw [← List.singleton_append, ← List.append_assoc] at spaced
    exact List.append_ne_nil_of_right_ne_nil more (List.cons_ne_nil c [])
      (eq_nil_of_startsBlank run spaced)

theorem startsBlank_append {blanks rest : Text} (white : ∀ c ∈ blanks, Text.isBlank c = true)
    (unspaced : Text.startsBlank rest = false) (spaced : Text.startsBlank (blanks ++ rest) = true)
    (t : Text) : Text.startsBlank (blanks ++ t) = true := by
  cases blanks with
  | nil =>
      rw [List.nil_append, unspaced] at spaced
      cases spaced
  | cons c blanks => exact white c List.mem_cons_self

/-! ## Independent bindings -/

/-- Bindings of which none makes or unmakes the placeholder of another. -/
structure Independent (bindings : List (Text × Text)) : Prop where
  distinct : (bindings.map Prod.fst).Nodup
  named : ∀ binding ∈ bindings, ∀ c ∈ binding.1, inName c = true
  unmarked : ∀ binding ∈ bindings, '?' ∉ binding.2
  closing : ∀ binding ∈ bindings, ∃ c rest, binding.2 = c :: rest ∧
    Text.isBlank c = false ∧ ∀ other ∈ bindings, c ∉ other.1

variable {binding : Text × Text} {bindings order : List (Text × Text)}

theorem Independent.tail (independent : Independent (binding :: bindings)) :
    Independent bindings where
  distinct := (List.nodup_cons.1 independent.distinct).2
  named := fun other member => independent.named other (List.mem_cons_of_mem _ member)
  unmarked := fun other member => independent.unmarked other (List.mem_cons_of_mem _ member)
  closing := by
    intro other member
    obtain ⟨c, rest, same, visible, foreign⟩ :=
      independent.closing other (List.mem_cons_of_mem _ member)
    exact ⟨c, rest, same, visible, fun third inside =>
      foreign third (List.mem_cons_of_mem _ inside)⟩

/-- Independence has nothing to do with the order. -/
theorem Independent.perm (independent : Independent bindings) (same : order.Perm bindings) :
    Independent order where
  distinct := (same.map Prod.fst).nodup_iff.2 independent.distinct
  named := fun other member => independent.named other (same.mem_iff.1 member)
  unmarked := fun other member => independent.unmarked other (same.mem_iff.1 member)
  closing := by
    intro other member
    obtain ⟨c, rest, begins, visible, foreign⟩ :=
      independent.closing other (same.mem_iff.1 member)
    exact ⟨c, rest, begins, visible, fun third inside => foreign third (same.mem_iff.1 inside)⟩

/-! ## One binding made before the others -/

theorem placeholder?_cons (t : Text) :
    placeholder? (binding :: bindings) t =
      (placeholder? [binding] t).or (placeholder? bindings t) := by
  cases found : behind? binding.1 t with
  | none => simp [placeholder?, found]
  | some rest => simp [placeholder?, found]

/-- Names are looked up by the run of name characters behind the question mark. -/
theorem placeholder?_word {word back : Text}
    (named : ∀ binding ∈ bindings, ∀ c ∈ binding.1, inName c = true)
    (inside : ∀ c ∈ word, inName c = true) (stops : ∀ c ∈ back.head?, inName c = false) :
    placeholder? bindings ('?' :: (word ++ back)) =
      if Text.startsBlank back = true then
        (bindings.find? fun binding => binding.1 = word).map fun binding =>
          (binding.2, Text.skipBlanks back)
      else none := by
  induction bindings with
  | nil => simp [placeholder?]
  | cons binding bindings ih =>
      rw [List.forall_mem_cons] at named
      rw [placeholder?_cons, ih named.2, placeholder?_singleton,
        behind?_word named.1 inside stops]
      by_cases spaced : Text.startsBlank back = true
      · by_cases here : binding.1 = word
        · simp [spaced, here]
        · simp [spaced, here]
      · simp [spaced]

/-- What a binding makes of a text that begins with a question mark begins with one too, or
with the replacement. -/
theorem replaceAll_singleton_mark (binding : Text × Text) (t : Text) :
    ∃ rest, replaceAll [binding] ('?' :: t) = '?' :: rest ∨
      replaceAll [binding] ('?' :: t) = binding.2 ++ rest := by
  cases found : placeholder? [binding] ('?' :: t) with
  | none => exact ⟨_, Or.inl (replaceAll_of_none found)⟩
  | some parts =>
      obtain ⟨replacement, rest⟩ := parts
      obtain ⟨_, member, same, _⟩ := exists_of_placeholder? found
      rw [List.mem_singleton] at member
      subst member
      exact ⟨_, Or.inr (by rw [replaceAll_of_some found, same])⟩

theorem startsBlank_replaceAll {c : Char} {more t : Text} (begins : binding.2 = c :: more)
    (visible : Text.isBlank c = false) (unspaced : Text.startsBlank t = false) :
    Text.startsBlank (replaceAll [binding] t) = false := by
  cases t with
  | nil => rw [replaceAll_nil, Text.startsBlank]
  | cons d t =>
      by_cases isMark : d = '?'
      · subst isMark
        obtain ⟨rest, kept | replaced⟩ := replaceAll_singleton_mark binding t
        · rw [kept]
          exact unspaced
        · rw [replaced, begins]
          exact visible
      · rw [replaceAll_of_none (placeholder?_of_ne isMark)]
        exact unspaced

/-- A binding makes no placeholder for the others out of a question mark before which none
stood. -/
theorem placeholder?_replaceAll (independent : Independent (binding :: bindings)) {t : Text}
    (absent : placeholder? bindings ('?' :: t) = none) :
    placeholder? bindings ('?' :: replaceAll [binding] t) = none := by
  obtain ⟨c, more, begins, visible, foreign⟩ := independent.closing binding List.mem_cons_self
  have named := independent.tail.named
  have inside : ∀ c ∈ t.takeWhile inName, inName c = true :=
    fun c member => List.mem_takeWhile_imp member
  have split : t = t.takeWhile inName ++ t.dropWhile inName :=
    List.takeWhile_append_dropWhile.symm
  generalize t.takeWhile inName = word at inside split
  have stops : ∀ c ∈ (t.dropWhile inName).head?, inName c = false := by
    intro c atHead
    have stopped := List.head?_dropWhile_not inName t
    rwa [Option.mem_def.1 atHead] at stopped
  generalize t.dropWhile inName = back at stops split
  subst split
  rw [placeholder?_word named inside stops] at absent
  rw [replaceAll_append (unmarked_of_inName inside)]
  cases back with
  | nil =>
      rw [replaceAll_nil, placeholder?_word named inside stops, absent]
  | cons d back =>
      have stopsHere : ∀ rest : Text, ∀ c ∈ (d :: rest).head?, inName c = false := fun _ => stops
      rcases inName_eq_false_iff.1 (stops d rfl) with blank | rfl
      · have plain : d ≠ '?' := by
          rintro rfl
          cases blank
        rw [replaceAll_of_none (placeholder?_of_ne plain),
          placeholder?_word named inside (stopsHere _)]
        rw [Text.startsBlank, if_pos blank, Option.map_eq_none_iff] at absent ⊢
        exact absent
      · obtain ⟨rest, kept | replaced⟩ := replaceAll_singleton_mark binding back
        · rw [kept, placeholder?_word named inside (stopsHere _)]
          rfl
        · have isMark : c ≠ '?' := by
            rintro rfl
            have unmarked := independent.unmarked binding List.mem_cons_self
            rw [begins] at unmarked
            exact unmarked List.mem_cons_self
          rw [replaced, begins, List.cons_append]
          exact placeholder?_eq_none_iff.2 fun other member =>
            behind?_closed inside (inName_iff.2 ⟨visible, isMark⟩)
              (foreign other (List.mem_cons_of_mem _ member))

/-- The placeholder of another binding stays where it is, and the binding goes on behind
it. -/
theorem placeholder?_replaceAll_of_some (independent : Independent (binding :: bindings))
    {t replacement rest : Text} (found : placeholder? bindings t = some (replacement, rest))
    (absent : placeholder? [binding] t = none) :
    placeholder? bindings (replaceAll [binding] t) =
      some (replacement, replaceAll [binding] rest) := by
  obtain ⟨c, more, begins, visible, _⟩ := independent.closing binding List.mem_cons_self
  have named := independent.tail.named
  obtain ⟨other, member, _, stands⟩ := exists_of_placeholder? found
  obtain ⟨blanks, rfl, spaced, white, unspaced⟩ := exists_of_behind? stands
  have inside := named other member
  have unmarked : '?' ∉ other.1 ++ blanks := by
    rw [List.mem_append, not_or]
    exact ⟨unmarked_of_inName inside, fun member => Bool.false_ne_true (white '?' member)⟩
  have copied : replaceAll [binding] (other.1 ++ blanks ++ rest) =
      other.1 ++ blanks ++ replaceAll [binding] rest := replaceAll_append unmarked rest
  rw [List.append_assoc, List.append_assoc] at copied
  rw [mark, List.cons_append] at found absent ⊢
  -- The name is looked up once more, now with the rewritten text behind its white space.
  have still := startsBlank_append white unspaced spaced (replaceAll [binding] rest)
  have after := startsBlank_replaceAll begins visible unspaced
  rw [placeholder?_word named inside (stops_of_startsBlank spaced), if_pos spaced,
    Option.map_eq_some_iff] at found
  obtain ⟨chosen, looked, parts⟩ := found
  rw [replaceAll_of_none absent, copied,
    placeholder?_word named inside (stops_of_startsBlank still), if_pos still, looked,
    Option.map_some, Text.skipBlanks_append white, Text.skipBlanks_of_not_startsBlank after,
    (Prod.mk.inj parts).1]

/-- **A binding can be made before the others.** -/
theorem replaceAll_cons (independent : Independent (binding :: bindings)) (t : Text) :
    replaceAll (binding :: bindings) t = replaceAll bindings (replaceAll [binding] t) := by
  induction t using replaceAll.induct (binding :: bindings) with
  | case1 => rw [replaceAll_nil, replaceAll_nil, replaceAll_nil]
  | case2 c t replacement rest found ih =>
      rw [replaceAll_of_some found, ih]
      rw [placeholder?_cons] at found
      cases first : placeholder? [binding] (c :: t) with
      | some parts =>
          rw [first, Option.some_or] at found
          cases found
          obtain ⟨other, member, same, _⟩ := exists_of_placeholder? first
          rw [List.mem_singleton] at member
          subst member same
          have unmarked : '?' ∉ other.2 ++ [' '] := by
            simpa using independent.unmarked other List.mem_cons_self
          have copied : replaceAll bindings (other.2 ++ [' '] ++ replaceAll [other] rest) =
              other.2 ++ [' '] ++ replaceAll bindings (replaceAll [other] rest) :=
            replaceAll_append unmarked _
          rw [replaceAll_of_some first]
          simpa using copied.symm
      | none =>
          rw [first, Option.none_or] at found
          rw [replaceAll_of_some (placeholder?_replaceAll_of_some independent found first)]
  | case3 c t absent ih =>
      rw [replaceAll_of_none absent, ih]
      rw [placeholder?_cons, Option.or_eq_none_iff] at absent
      have later : placeholder? bindings (c :: replaceAll [binding] t) = none := by
        by_cases isMark : c = '?'
        · subst isMark
          exact placeholder?_replaceAll independent absent.2
        · exact placeholder?_of_ne isMark
      rw [replaceAll_of_none absent.1, replaceAll_of_none later]

/-! ## Any order -/

/-- At one place stands the placeholder of one name at most. -/
theorem behind?_name_unique {name other t rest rest' : Text}
    (plain : ∀ c ∈ name, inName c = true) (plain' : ∀ c ∈ other, inName c = true)
    (found : behind? name t = some rest) (found' : behind? other t = some rest') :
    name = other := by
  obtain ⟨back, rfl, spaced, _⟩ := behind?_eq_some_iff.1 found
  rw [mark, List.cons_append, behind?_word plain' plain (stops_of_startsBlank spaced)] at found'
  by_contra differs
  rw [if_neg fun both => differs both.1.symm] at found'
  cases found'

/-- Where names are distinct, the place of a binding among the others does not matter. -/
theorem placeholder?_eq_some_iff (independent : Independent bindings)
    {t replacement rest : Text} :
    placeholder? bindings t = some (replacement, rest) ↔
      ∃ binding ∈ bindings, binding.2 = replacement ∧ behind? binding.1 t = some rest := by
  refine ⟨exists_of_placeholder?, ?_⟩
  rintro ⟨binding, member, same, stands⟩
  cases found : placeholder? bindings t with
  | none =>
      rw [placeholder?_eq_none_iff.1 found binding member] at stands
      cases stands
  | some parts =>
      obtain ⟨other, member', same', stands'⟩ := exists_of_placeholder? found
      have sameName := behind?_name_unique (independent.named binding member)
        (independent.named other member') stands stands'
      have sameBinding : binding = other :=
        List.inj_on_of_nodup_map independent.distinct member member' sameName
      subst sameBinding
      rw [stands, Option.some.injEq] at stands'
      exact congrArg some (Prod.ext (same'.symm.trans same) stands'.symm)

/-- The simultaneous replacement does not depend on the order of the bindings. -/
theorem replaceAll_perm (independent : Independent bindings) (same : order.Perm bindings)
    (t : Text) : replaceAll order t = replaceAll bindings t := by
  have agree : ∀ u, placeholder? order u = placeholder? bindings u := by
    intro u
    ext ⟨replacement, rest⟩
    rw [placeholder?_eq_some_iff independent, placeholder?_eq_some_iff (independent.perm same)]
    simp only [same.mem_iff]
  induction t using replaceAll.induct bindings with
  | case1 => rw [replaceAll_nil, replaceAll_nil]
  | case2 c t replacement rest found ih =>
      rw [replaceAll_of_some found, replaceAll_of_some ((agree _).trans found), ih]
  | case3 c t absent ih =>
      rw [replaceAll_of_none absent, replaceAll_of_none ((agree _).trans absent), ih]

end SparqlRequest.Placeholder

namespace SparqlRequest.Query

open Placeholder

variable {bindings order : List (Text × Text)}

/-- Independent bindings in turn are the simultaneous replacement. -/
theorem bindAll_text (independent : Independent bindings) (query : Query) :
    (query.bindAll bindings).text = replaceAll bindings query.text := by
  induction bindings generalizing query with
  | nil => exact (replaceAll_without_bindings query.text).symm
  | cons binding bindings ih =>
      have unmarked : '?' ∉ binding.1 :=
        unmarked_of_inName (independent.named binding List.mem_cons_self)
      calc (query.bindAll (binding :: bindings)).text
          = ((query.bind binding.1 binding.2).bindAll bindings).text := rfl
        _ = replaceAll bindings (substitute binding.1 binding.2 query.text) :=
            ih independent.tail _
        _ = replaceAll bindings (replaceAll [binding] query.text) := by
            rw [substitute_eq_replaceAll unmarked]
        _ = replaceAll (binding :: bindings) query.text :=
            (replaceAll_cons independent query.text).symm

/-- **Independent bindings can be made in any order**: the result is the simultaneous
replacement of their placeholders in the original text. -/
theorem bindAll_text_of_perm (independent : Independent bindings) (same : order.Perm bindings)
    (query : Query) : (query.bindAll order).text = replaceAll bindings query.text :=
  (bindAll_text (independent.perm same) query).trans (replaceAll_perm independent same query.text)

/-- Two names of which one begins the other, placeholders side by side and at the end, and the
later binding made first. -/
theorem bindAll_text_of_perm_adjacent :
    let bindings := [("s".toList, "<a>".toList), ("so".toList, "'b'".toList)]
    let query := create "?s?so ?s\t?so".toList Registry.empty
    Independent bindings ∧ bindings.reverse.Perm bindings ∧
      (query.bindAll bindings.reverse).text = "?s'b' <a> ?so".toList := by
  intro bindings query
  have named : ∀ binding ∈ bindings, ∀ c ∈ binding.1, inName c = true := by
    rw [List.forall_mem_cons, List.forall_mem_singleton]
    exact ⟨List.all_eq_true.1 rfl, List.all_eq_true.1 rfl⟩
  have independent : Independent bindings :=
    { distinct := by decide, named, unmarked := by decide, closing := by simp +decide [bindings] }
  have same : bindings.reverse.Perm bindings := List.reverse_perm bindings
  refine ⟨independent, same, ?_⟩
  rw [bindAll_text_of_perm independent same]
  decide +kernel

end SparqlRequest.Query
