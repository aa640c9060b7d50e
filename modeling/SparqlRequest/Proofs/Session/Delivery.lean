/-
# Proofs.Session.Delivery -- what reaches the transport over a whole session

A session interleaves the steps of its client and of its queries in any order.  What it
answers to a step is a matter of the steps before (`answered_iff`), so a statement about a
whole session is one about every place in it.

`run_delivers` says what reaches the transport.  Only the execution of a query that is
alive hands anything over, and then it is one statement: the preamble of the query's own
registry, then its own text.  Placeholders are replaced in the text and never in the
preamble.  Registrations for the client behind the start of the query, and steps on other
numbers, appear in neither of the two.
-/
import SparqlRequest.Proofs.Query.Execution
import SparqlRequest.Proofs.Session.History
import SparqlRequest.Proofs.Statement.Prologue

set_option autoImplicit false

namespace SparqlRequest.Session

def Answer.sent : Answer → List Delivery
  | .executed execution => execution.sent
  | _ => []

/-- What a session answers to a step behind a history, whatever follows. -/
def Answered (reply : Except TransportError Text) (past : List Action) (action : Action)
    (answer : Answer) : Prop :=
  ∀ future, ((start reply).run (past ++ action :: future))[past.length]? = some answer

/-- A session shows of the query of a number, and sends of it, what its registry and its
text come to: the error of the preamble, or else of the classification, or the statement. -/
structure Delivers (reply : Except TransportError Text) (past : List Action) (slot : Nat)
    (registry : Registry) (text : Text) : Prop where
  refused : ∀ error, registry.preamble = .error error →
    Answered reply past (.on slot .render) (.failed error) ∧
    Answered reply past (.on slot .kind) (.failed error) ∧
    ∀ parameters, Answered reply past (.on slot (.execute parameters))
      (.executed ⟨[], .error error⟩)
  unclassified : ∀ preamble error, registry.preamble = .ok preamble →
    StatementKind.classify (preamble ++ text) = .error error →
    Answered reply past (.on slot .render) (.rendered (preamble ++ text)) ∧
    Answered reply past (.on slot .kind) (.failed error) ∧
    ∀ parameters, Answered reply past (.on slot (.execute parameters))
      (.executed ⟨[], .error error⟩)
  classified : ∀ preamble kind, registry.preamble = .ok preamble →
    StatementKind.classify (preamble ++ text) = .ok kind →
    Answered reply past (.on slot .render) (.rendered (preamble ++ text)) ∧
    Answered reply past (.on slot .kind) (.kind kind) ∧
    ∀ parameters, Answered reply past (.on slot (.execute parameters))
      (.executed ⟨[⟨⟨preamble ++ text, kind⟩, parameters⟩],
        Query.outcomeOf (currentReply reply past)⟩)

variable {reply : Except TransportError Text} {past : List Action} {slot : Nat}

theorem answered_iff {action : Action} {answer : Answer} :
    Answered reply past action answer ↔
      (((start reply).after past).step action).2 = answer := by
  constructor
  · intro answered
    have here := answered []
    rw [run_getElem?] at here
    exact Option.some.inj here
  · rintro rfl future
    exact run_getElem? (start reply) past future action

/-! ## Queries that are alive -/

theorem step_on_of_some {session : Session} {query : Query} {action : QueryAction}
    (found : session.query? slot = some query) (sound : action.fault? = none) :
    session.step (.on slot action) = session.queryStep slot query action := by
  simp only [step, sound, found]

theorem step_on_of_none {session : Session} {action : QueryAction}
    (absent : session.query? slot = none) (sound : action.fault? = none) :
    session.step (.on slot action) = (session, .noQuery) := by
  simp only [step, sound, absent]

/-- What is asked of a query that is there is answered by the query. -/
theorem answered_of_some {query : Query} {rendered : Except Error Text}
    {kind : Except Error StatementKind} {execution : Transport → Parameters → Execution}
    (found : ((start reply).after past).query? slot = some query)
    (shown : query.render = rendered) (told : query.kind = kind)
    (sent : ∀ transport parameters,
      query.execute transport parameters = execution transport parameters) :
    Answered reply past (.on slot .render) (answerOf .rendered rendered) ∧
      Answered reply past (.on slot .kind) (answerOf .kind kind) ∧
      ∀ parameters, Answered reply past (.on slot (.execute parameters))
        (.executed (execution (fun _ => currentReply reply past) parameters)) := by
  refine ⟨?_, ?_, fun parameters => ?_⟩
  · rw [answered_iff, step_on_of_some found rfl, ← shown]
    rfl
  · rw [answered_iff, step_on_of_some found rfl, ← told]
    rfl
  · rw [answered_iff, step_on_of_some found rfl, ← sent, ← reply_after reply past]
    rfl

/-- The life of a query says all that is sent of it. -/
theorem delivers_of_life {before since : List Action} {template : Text}
    (life : Life past slot before template since) :
    Delivers reply past slot (ownRegistry slot before since) (ownText slot template since) := by
  obtain ⟨query, found, sameRegistry, sameText⟩ := query?_of_life reply life
  rw [← sameRegistry, ← sameText]
  constructor
  · intro error refused
    obtain ⟨shown, told, sent⟩ := Query.shown_of_refusal refused
    exact answered_of_some found shown told sent
  · intro preamble error written untold
    obtain ⟨shown, told, sent⟩ := Query.shown_of_unclassified written untold
    exact answered_of_some found shown told sent
  · intro preamble kind written classified
    obtain ⟨shown, told, sent⟩ := Query.shown_of_classified written classified
    exact answered_of_some found shown told sent

/-- Steps that leave a query as it is change nothing of what it delivers. -/
theorem delivers_of_left {before since between : List Action} {template : Text}
    (life : Life past slot before template since)
    (left : ∀ action ∈ between, action.Leaves slot) :
    Delivers reply (past ++ between) slot (ownRegistry slot before since)
      (ownText slot template since) := by
  have later : Delivers reply (past ++ between) slot _ _ := delivers_of_life (life.append left)
  rwa [ownRegistry_append left, ownText_append left] at later

/-- A number without a life has no query. -/
theorem query?_eq_none_of_no_life
    (dead : ¬ ∃ before template since, Life past slot before template since) :
    ((start reply).after past).query? slot = none := by
  cases found : ((start reply).after past).query? slot with
  | none => rfl
  | some query =>
      obtain ⟨before, template, since, life, -⟩ := (query?_after reply past).1 found
      exact absurd ⟨before, template, since, life⟩ dead

/-! ## Steps that send -/

theorem sent_answerOf {α : Type} {answer : α → Answer} (silent : ∀ value, (answer value).sent = [])
    (result : Except Error α) : (answerOf answer result).sent = [] := by
  cases result with
  | error error => rfl
  | ok value => exact silent value

/-- A step on a query sends something only by executing it. -/
theorem sent_queryStep {session : Session} {query : Query} {action : QueryAction}
    (idle : ∀ parameters, action ≠ .execute parameters) :
    (session.queryStep slot query action).2.sent = [] := by
  cases action with
  | bindTerm name recipe =>
      rw [queryStep]
      split <;> rfl
  | registerCommon names =>
      rw [queryStep]
      split <;> rfl
  | render => exact sent_answerOf (fun _ => rfl) query.render
  | kind => exact sent_answerOf (fun _ => rfl) query.kind
  | execute parameters => exact absurd rfl (idle parameters)
  | _ => rfl

/-- A step sends something only by executing a query that is there. -/
theorem exists_of_sent_step {session : Session} {action : Action}
    (sends : (session.step action).2.sent ≠ []) :
    ∃ slot parameters query,
      action = .on slot (.execute parameters) ∧ session.query? slot = some query := by
  cases action with
  | registerCommon names =>
      refine absurd ?_ sends
      rw [step]
      split <;> rfl
  | on slot action =>
      cases faulty : action.fault? with
      | some error =>
          refine absurd ?_ sends
          simp only [step, faulty]
          rfl
      | none =>
          cases found : session.query? slot with
          | none =>
              refine absurd ?_ sends
              rw [step_on_of_none found faulty]
              rfl
          | some query =>
              rw [step_on_of_some found faulty] at sends
              by_contra none
              refine sends (sent_queryStep fun parameters same => none ?_)
              exact ⟨slot, parameters, query, congrArg (Action.on slot) same, found⟩
  | _ => exact absurd rfl sends

/-- **What reaches the transport.**  The execution of a query that is alive sends one
statement, or fails like `render` or `kind` in its place and sends nothing.  However many
steps of any kind come in between, what it sends stays the same as long as they leave the
query as it is.  A query that is not alive is not found; no other step sends anything; and
the registry of the client comes from its own registrations. -/
theorem run_delivers (reply : Except TransportError Text) (past : List Action) :
    (∀ slot before template since, Life past slot before template since →
      Delivers reply past slot (ownRegistry slot before since) (ownText slot template since) ∧
      ∀ between, (∀ action ∈ between, action.Leaves slot) →
        Delivers reply (past ++ between) slot (ownRegistry slot before since)
          (ownText slot template since)) ∧
    (∀ slot, (¬ ∃ before template since, Life past slot before template since) →
      ∀ action, action.fault? = none → Answered reply past (.on slot action) .noQuery) ∧
    (∀ action answer, Answered reply past action answer → answer.sent ≠ [] →
      ∃ slot parameters, action = .on slot (.execute parameters) ∧
        ∃ before template since, Life past slot before template since) ∧
    Answered reply past .registry (.registry (clientRegistry past)) := by
  refine ⟨?_, ?_, ?_, ?_⟩
  · intro slot before template since life
    exact ⟨delivers_of_life life, fun between left => delivers_of_left life left⟩
  · intro slot dead action sound
    rw [answered_iff, step_on_of_none (query?_eq_none_of_no_life dead) sound]
  · intro action answer answered sends
    rw [← answered_iff.1 answered] at sends
    obtain ⟨slot, parameters, query, same, found⟩ := exists_of_sent_step sends
    obtain ⟨before, template, since, life, -⟩ := (query?_after reply past).1 found
    exact ⟨slot, parameters, same, before, template, since, life⟩
  · rw [answered_iff, ← client_after reply]
    rfl

/-- Two queries interleaved: the first sends what its client had declared when it was started
and what it declared itself, and the second is gone with a name that is not well known. -/
theorem run_delivers_interleaved :
    let past : List Action :=
      [.register (.base "http://a/".toList), .start 0 "SELECT ?x ?y ".toList,
        .register (.one "p".toList "http://p/".toList), .start 1 "CLEAR ?x ".toList,
        .on 0 (.bind "x".toList "<x>".toList), .on 1 (.registerCommon ["none".toList]),
        .on 0 (.register (.one "q".toList "http://q/".toList))]
    let between : List Action := [.on 0 .render, .register (.base "http://b/".toList)]
    let preamble := "BASE <http://a/>\nPREFIX q: <http://q/>\n\n".toList
    let text := "SELECT <x> ?y ".toList
    Answered (.error (.connect [])) (past ++ between) (.on 0 (.execute []))
        (.executed ⟨[⟨⟨preamble ++ text, .query⟩, []⟩], .error (.transport (.connect []))⟩) ∧
      Answered (.error (.connect [])) past (.on 1 .render) .noQuery := by
  intro past between preamble text
  have delivers := run_delivers (.error (.connect [])) past
  constructor
  · have life : Life past 0 (past.take 1) "SELECT ?x ?y ".toList (past.drop 2) :=
      ⟨rfl, by decide +kernel⟩
    have left : ∀ action ∈ between, action.Leaves 0 := by
      rw [List.forall_mem_cons, List.forall_mem_singleton]
      exact ⟨⟨rfl, by decide, by decide⟩, ⟨rfl, by decide, by decide⟩⟩
    have written : (ownRegistry 0 (past.take 1) (past.drop 2)).preamble = .ok preamble :=
      Registry.preamble_eq_ok_iff.2
        ⟨Registry.firstUnsafe?_eq_none_iff.1 (by decide +kernel), by decide +kernel⟩
    have bound : ownText 0 "SELECT ?x ?y ".toList (past.drop 2) = text := by decide +kernel
    have told : StatementKind.classify (preamble ++ text) = .ok .query :=
      StatementKind.classify_eq_ok_iff.2 (by decide +kernel)
    have later := (delivers.1 0 _ _ _ life).2 between left
    rw [bound] at later
    exact (later.classified preamble .query written told).2.2 []
  · have gone : ((start (.error (.connect []))).after past).query? 1 = none := by decide +kernel
    refine delivers.2.1 1 ?_ .render rfl
    rintro ⟨before, template, since, life⟩
    obtain ⟨query, found, -⟩ := query?_of_life (.error (.connect [])) life
    rw [gone] at found
    cases found

end SparqlRequest.Session
