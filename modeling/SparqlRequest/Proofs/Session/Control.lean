/-
# Proofs.Session.Control -- no statement that is sent holds a NUL

A session takes in texts of two kinds.  Templates, replacements and the names of prefixes go
into statements as they are; URIs, values, datatypes and language tags are judged first, some
of them only when the preamble is written.  `Session.NulFree` is what holds of a session when
none of the first kind held a NUL: a step keeps it (`NulFree.step`), whatever it brings of the
second kind, and what an execution hands over then holds none either (`NulFree.sent`).
-/
import SparqlRequest.Proofs.Query.Placeholder
import SparqlRequest.Proofs.Registry.Writes
import SparqlRequest.Proofs.Session.Delivery
import SparqlRequest.Proofs.Term.Control

set_option autoImplicit false

namespace SparqlRequest

/-! ## Preambles -/

namespace Registry

/-- The characters that a preamble holds of its own. -/
def marks : Text := "BASE PREFIX: <>\n".toList

theorem mem_marks_of_all {part : Text} (own : part.all marks.contains = true) :
    ∀ c ∈ part, c ∈ marks :=
  fun c member => List.contains_iff_mem.1 (List.all_eq_true.1 own c member)

variable {registry : Registry} {c : Char}

theorem mem_baseText {uri : Text} (member : c ∈ baseText uri) : c ∈ marks ∨ c ∈ uri := by
  unfold baseText at member
  rw [List.mem_append, List.mem_append] at member
  rcases member with (inKeyword | inUri) | inEnd
  · exact Or.inl (mem_marks_of_all rfl c inKeyword)
  · exact Or.inr inUri
  · exact Or.inl (mem_marks_of_all rfl c inEnd)

theorem mem_prefixText {entry : Text × Text} (member : c ∈ prefixText entry) :
    c ∈ marks ∨ c ∈ entry.1 ∨ c ∈ entry.2 := by
  unfold prefixText at member
  simp only [List.mem_append] at member
  rcases member with (((inKeyword | inLabel) | inColon) | inUri) | inEnd
  · exact Or.inl (mem_marks_of_all rfl c inKeyword)
  · exact Or.inr (Or.inl inLabel)
  · exact Or.inl (mem_marks_of_all rfl c inColon)
  · exact Or.inr (Or.inr inUri)
  · exact Or.inl (mem_marks_of_all rfl c inEnd)

/-- **A preamble holds the characters of its names and URIs**, and a few of its own. -/
theorem mem_declarations (member : c ∈ registry.declarations) :
    c ∈ marks ∨ (∃ label ∈ registry.names, c ∈ label) ∨ ∃ uri ∈ registry.uris, c ∈ uri := by
  rw [declarations] at member
  split at member
  · cases member
  · rw [List.mem_append, List.mem_flatten] at member
    rcases member with ⟨line, listed, inLine⟩ | inEnd
    · rw [lines, List.mem_append, List.mem_map, List.mem_map] at listed
      rcases listed with ⟨uri, declared, rfl⟩ | ⟨entry, declared, rfl⟩
      · refine (mem_baseText inLine).imp_right fun inUri => Or.inr ?_
        exact ⟨uri, List.mem_append_left _ declared, inUri⟩
      · refine (mem_prefixText inLine).imp_right fun inEntry => inEntry.imp ?_ ?_
        · exact fun inLabel => ⟨entry.1, List.mem_map_of_mem declared, inLabel⟩
        · exact fun inUri =>
            ⟨entry.2, List.mem_append_right _ (List.mem_map_of_mem declared), inUri⟩
    · exact Or.inl (mem_marks_of_all rfl c inEnd)

end Registry

/-! ## Queries -/

namespace Query

/-- No NUL has come into a query. -/
structure NulFree (query : Query) : Prop where
  text : '\x00' ∉ query.text
  labels : ∀ label ∈ query.registry.names, '\x00' ∉ label

variable {query : Query}

/-- A URI with NUL is refused before anything is handed over. -/
theorem NulFree.nul_not_mem_statement (clean : query.NulFree) {statement : Statement}
    (finished : query.statement = .ok statement) : '\x00' ∉ statement.text := by
  obtain ⟨rendered, _⟩ := shown_of_statement finished
  obtain ⟨preamble, written, joined⟩ := map_eq_ok_iff.1 rendered
  obtain ⟨safe, rfl⟩ := Registry.preamble_eq_ok_iff.1 written
  rw [← joined, List.mem_append, not_or]
  refine ⟨fun member => ?_, clean.text⟩
  rcases Registry.mem_declarations member with own | ⟨label, declared, inLabel⟩ | ⟨uri, used, inUri⟩
  · exact absurd own (by decide)
  · exact clean.labels label declared inLabel
  · exact absurd (safe uri used _ inUri) (by decide)

/-- What is handed to a transport is the finished statement of the query. -/
theorem statement_of_mem_sent {transport : Transport} {parameters : Parameters}
    {delivery : Delivery} (handed : delivery ∈ (query.execute transport parameters).sent) :
    query.statement = .ok delivery.statement := by
  cases finished : query.statement with
  | error error =>
      rw [execute_of_fault finished] at handed
      cases handed
  | ok statement =>
      rw [execute_of_statement finished, List.mem_singleton] at handed
      rw [handed]

end Query

/-! ## Steps -/

namespace Session

/-- The texts that an action puts into a statement as they are. -/
def QueryAction.rawTexts : QueryAction → List Text
  | .bind _ replacement => [replacement]
  | .register registration => registration.labels
  | _ => []

/-- The texts that a step puts into statements as they are. -/
def Action.rawTexts : Action → List Text
  | .register registration => registration.labels
  | .start _ template => [template]
  | .on _ action => action.rawTexts
  | _ => []

theorem Action.rawTexts_of_on? {action : Action} {slot : Nat} {own : QueryAction}
    (found : action.on? slot = some own) : action.rawTexts = own.rawTexts := by
  cases action with
  | on other inner =>
      rw [on?, Option.ite_none_right_eq_some] at found
      obtain ⟨_, same⟩ := found
      cases same
      rfl
  | _ => cases found

/-- The well-known names are free of NUL, whichever of them are asked for. -/
theorem nul_not_mem_vocabulary : ∀ label ∈ Vocabulary.names, '\x00' ∉ label := by
  have clean : (Vocabulary.names.any fun label => label.contains '\x00') = false := rfl
  intro label known member
  exact List.any_eq_false.1 clean label known (List.contains_iff_mem.2 member)

namespace QueryAction

variable {action : QueryAction}

theorem nul_not_mem_binding (raw : ∀ text ∈ action.rawTexts, '\x00' ∉ text) :
    ∀ binding ∈ action.binding?, '\x00' ∉ binding.2 := by
  intro binding bound
  cases action with
  | bind name replacement =>
      cases bound
      exact raw replacement List.mem_cons_self
  | bindTerm name recipe =>
      cases built : recipe.build with
      | error error => simp [binding?, built] at bound
      | ok term =>
          simp only [binding?, built, Option.mem_def, Option.some.injEq] at bound
          rw [← bound]
          exact (Term.contained_of_build built).nul
  | _ => cases bound

theorem nul_not_mem_labels (raw : ∀ text ∈ action.rawTexts, '\x00' ∉ text) :
    ∀ registration ∈ action.registration?, ∀ label ∈ registration.labels, '\x00' ∉ label := by
  intro registration made label declared
  cases action with
  | register registration =>
      cases made
      exact raw label declared
  | registerCommon names =>
      exact nul_not_mem_vocabulary label (Registry.labels_of_common? made label declared)
  | _ => cases made

end QueryAction

theorem Action.nul_not_mem_labels {action : Action} (raw : ∀ text ∈ action.rawTexts, '\x00' ∉ text) :
    ∀ registration ∈ action.registration?, ∀ label ∈ registration.labels, '\x00' ∉ label := by
  intro registration made label declared
  cases action with
  | register registration =>
      cases made
      exact raw label declared
  | registerCommon names =>
      exact nul_not_mem_vocabulary label (Registry.labels_of_common? made label declared)
  | _ => cases made

structure NulFree (session : Session) : Prop where
  labels : ∀ label ∈ session.client.registry.names, '\x00' ∉ label
  queries : ∀ slot query, session.query? slot = some query → query.NulFree

theorem nulFree_start (reply : Except TransportError Text) : (start reply).NulFree where
  labels := List.forall_mem_nil _
  queries := by
    intro slot query found
    cases found

/-- Registrations of names without NUL leave a registry with such names. -/
theorem nul_not_mem_register? {registry : Registry} {registration? : Option Registration}
    (clean : ∀ label ∈ registry.names, '\x00' ∉ label)
    (added : ∀ registration ∈ registration?, ∀ label ∈ registration.labels, '\x00' ∉ label) :
    ∀ label ∈ (registration?.elim registry registry.register).names, '\x00' ∉ label := by
  cases registration? with
  | none => exact clean
  | some registration =>
      intro label declared
      rw [Option.elim_some, Registry.mem_names_register_iff] at declared
      exact declared.elim (clean label) (added registration rfl label)

/-- An action brings no NUL into its query but by its raw texts. -/
theorem nulFree_advance {query : Query} (clean : query.NulFree) {action : QueryAction}
    (raw : ∀ text ∈ action.rawTexts, '\x00' ∉ text) : (advance query action).NulFree where
  text := by
    have safe := QueryAction.nul_not_mem_binding raw
    simp only [advance]
    cases bound : action.binding? with
    | none => exact clean.text
    | some binding =>
        intro member
        rcases Placeholder.mem_substitute member with inText | inReplacement | isSpace
        · exact clean.text inText
        · exact safe binding bound inReplacement
        · cases isSpace
  labels := nul_not_mem_register? clean.labels (QueryAction.nul_not_mem_labels raw)

/-- **A step brings no NUL into a session** by what is judged before it is written. -/
theorem NulFree.step {session : Session} (clean : session.NulFree) {action : Action}
    (raw : ∀ text ∈ action.rawTexts, '\x00' ∉ text) : (session.step action).1.NulFree where
  labels := by
    rw [client_step]
    have labels := nul_not_mem_register? clean.labels (Action.nul_not_mem_labels raw)
    cases registered : action.registration? with
    | none => exact clean.labels
    | some registration =>
        rw [registered] at labels
        exact labels
  queries := by
    intro slot query found
    cases settled : action.settles slot with
    | false =>
        rw [query?_step_of_kept settled, Option.map_eq_some_iff] at found
        obtain ⟨earlier, wasThere, rfl⟩ := found
        have was := clean.queries slot earlier wasThere
        cases own : action.on? slot with
        | none => exact was
        | some ownAction =>
            exact nulFree_advance was (Action.rawTexts_of_on? own ▸ raw)
    | true =>
        rw [query?_step_of_settled settled] at found
        cases action with
        | start other template =>
            obtain rfl := Option.some.inj found
            exact ⟨raw template List.mem_cons_self, clean.labels⟩
        | _ => cases found

/-- What an execution hands over holds no NUL. -/
theorem NulFree.sent {session : Session} (clean : session.NulFree) (action : Action) :
    ∀ delivery ∈ (session.step action).2.sent, '\x00' ∉ delivery.statement.text := by
  intro delivery handed
  obtain ⟨slot, parameters, query, rfl, found⟩ := exists_of_sent_step (List.ne_nil_of_mem handed)
  rw [step_on_of_some found rfl] at handed
  exact (clean.queries slot query found).nul_not_mem_statement
    (Query.statement_of_mem_sent handed)

/-- Behind raw texts without NUL, no statement of a run holds one. -/
theorem NulFree.run {session : Session} (clean : session.NulFree) {actions : List Action}
    (raw : ∀ action ∈ actions, ∀ text ∈ action.rawTexts, '\x00' ∉ text) :
    ∀ answer ∈ session.run actions, ∀ delivery ∈ answer.sent,
      '\x00' ∉ delivery.statement.text := by
  induction actions generalizing session with
  | nil => exact List.forall_mem_nil _
  | cons action actions ih =>
      rw [List.forall_mem_cons] at raw
      exact List.forall_mem_cons.2 ⟨clean.sent action, ih (clean.step raw.1) raw.2⟩

/-- **Control characters never leak.**  In a term there is no NUL, and a line feed, a tab or a
carriage return only where it is enclosed.  So a session whose templates, replacements and
names of prefixes hold no NUL hands over no statement with one, whatever URIs, values, datatypes
and language tags it is given, and in whatever order. -/
theorem controls_contained :
    (∀ (recipe : Term.Recipe) (term : Term), recipe.build = .ok term → term.Contained) ∧
      ∀ (reply : Except TransportError Text) (actions : List Action),
        (∀ action ∈ actions, ∀ text ∈ action.rawTexts, '\x00' ∉ text) →
          ∀ answer ∈ (start reply).run actions, ∀ delivery ∈ answer.sent,
            '\x00' ∉ delivery.statement.text := by
  constructor
  · intro recipe term made
    exact Term.contained_of_build made
  · intro reply actions raw
    exact (nulFree_start reply).run raw

/-- A base with NUL is refused, and behind another base the statement goes out; what was bound
in it holds a tab and a line feed. -/
theorem controls_contained_rebased :
    let recipe : Term.Recipe := .string (.text "a\tb\nc".toList) none
    let term : Term := .string ⟨"a\tb\nc".toList, none⟩
    let actions : List Action :=
      [.start 0 "SELECT ?x ".toList, .on 0 (.bindTerm "x".toList recipe),
        .on 0 (.register (.base ['\x00'])), .on 0 .render,
        .on 0 (.register (.base "http://a/".toList)), .on 0 (.execute [])]
    recipe.build = .ok term ∧ term.Contained ∧
      (∀ action ∈ actions, ∀ text ∈ action.rawTexts, '\x00' ∉ text) ∧
      ((start (.ok [])).run actions).map (fun answer => answer.sent.length) = [0, 0, 0, 0, 0, 1] ∧
      ∀ answer ∈ (start (.ok [])).run actions, ∀ delivery ∈ answer.sent,
        '\x00' ∉ delivery.statement.text := by
  intro recipe term actions
  have made : recipe.build = .ok term := rfl
  have raw : ∀ action ∈ actions, ∀ text ∈ action.rawTexts, '\x00' ∉ text := by decide
  exact ⟨made, controls_contained.1 recipe term made, raw, by decide +kernel,
    controls_contained.2 (.ok []) actions raw⟩

end Session

end SparqlRequest
