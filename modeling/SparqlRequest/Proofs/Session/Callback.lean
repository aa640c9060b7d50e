/-
# Proofs.Session.Callback -- a callback is handed what a later execution answers

To the session around it, a query that is executed with a callback is gone like one that is
executed (`session_after`).  Its task keeps it as it was (`task_after`), whatever the
session does in between: nothing reaches a query in a task, and a query that is started
under the same number is another one.  So all that still matters is what the transport answers
when the task runs, and the callback is handed what an execution answers in a session in which
nothing else has happened (`finish_eq_execute`).
-/
import SparqlRequest.Proofs.Session.Delivery
import SparqlRequest.Runtime

set_option autoImplicit false

namespace SparqlRequest.Runtime

def after (runtime : Runtime) (actions : List Action) : Runtime :=
  actions.foldl (fun runtime action => (runtime.step action).1) runtime

/-- What a step of the runtime is to the session. -/
def Action.session? : Action → Option Session.Action
  | .step action => some action
  | .executeCallback slot parameters => some (.on slot (.execute parameters))
  | .finish _ => none

/-- A step of a session that changes what the transport answers. -/
def changesReply (action : Session.Action) : Bool := action.reply?.isSome

variable {runtime : Runtime}

/-! ## The session -/

theorem session_step (action : Action) :
    (runtime.step action).1.session = runtime.session.after action.session?.toList := by
  cases action with
  | step action => rfl
  | executeCallback slot parameters =>
      show _ = (runtime.session.step (.on slot (.execute parameters))).1
      rw [Session.step_on, step]
      cases runtime.session.query? slot with
      | none => rfl
      | some query => rfl
  | finish task =>
      show _ = runtime.session
      rw [step]
      split
      · rfl
      · rfl

/-- To the session, an execution with a callback is an execution. -/
theorem session_after (actions : List Action) :
    (runtime.after actions).session =
      runtime.session.after (actions.filterMap Action.session?) := by
  induction actions generalizing runtime with
  | nil => rfl
  | cons action actions ih =>
      show ((runtime.step action).1.after actions).session = _
      rw [ih, session_step, List.filterMap_cons]
      cases action.session? with
      | none => rfl
      | some own => rfl

/-! ## A task -/

variable {task : Nat} {query : Query} {parameters : Parameters}

/-- Only its own end takes a task away. -/
theorem task_step (waiting : runtime.tasks[task]? = some (some (query, parameters)))
    {action : Action} (spared : action ≠ .finish task) :
    (runtime.step action).1.tasks[task]? = some (some (query, parameters)) := by
  cases action with
  | step action => exact waiting
  | executeCallback slot other =>
      rw [step]
      cases runtime.session.query? slot with
      | none => exact waiting
      | some found =>
          obtain ⟨inside, _⟩ := List.getElem?_eq_some_iff.1 waiting
          exact (List.getElem?_append_left inside).trans waiting
  | finish other =>
      have elsewhere : other ≠ task := by
        rintro rfl
        exact spared rfl
      rw [step]
      split
      · exact (List.getElem?_set_ne elsewhere).trans waiting
      · exact waiting

/-- A task keeps its query until it runs. -/
theorem task_after {actions : List Action}
    (waiting : runtime.tasks[task]? = some (some (query, parameters)))
    (spared : .finish task ∉ actions) :
    (runtime.after actions).tasks[task]? = some (some (query, parameters)) := by
  induction actions generalizing runtime with
  | nil => exact waiting
  | cons action actions ih =>
      rw [List.mem_cons, not_or] at spared
      exact ih (task_step waiting (Ne.symm spared.1)) spared.2

theorem task_of_executeCallback {slot : Nat}
    (found : runtime.session.query? slot = some query) :
    (runtime.step (.executeCallback slot parameters)).1.tasks[runtime.tasks.length]? =
      some (some (query, parameters)) := by
  simp only [step, found]
  exact List.getElem?_concat_length

theorem answer_finish (waiting : runtime.tasks[task]? = some (some (query, parameters))) :
    (runtime.step (.finish task)).2 =
      .executed (query.execute (fun _ => runtime.session.reply) parameters) := by
  simp only [step, waiting]

/-! ## Callbacks -/

variable (reply : Except TransportError Text)

/-- Only changes of what the transport answers count for what it answers. -/
theorem currentReply_append (past between : List Session.Action) (slot : Nat) :
    Session.currentReply reply (past ++ between.filter changesReply) =
      Session.currentReply reply (past ++ .on slot (.execute parameters) :: between) := by
  have same : (between.filter changesReply).filterMap Session.Action.reply? =
      between.filterMap Session.Action.reply? := by
    rw [List.filterMap_filter]
    apply List.filterMap_congr
    intro action _
    rw [changesReply]
    cases action.reply? with
    | none => rfl
    | some changed => rfl
  rw [Session.currentReply, Session.currentReply, List.filterMap_append, List.filterMap_append,
    same]
  rfl

theorem query?_after_changes {session : Session} {slot : Nat} {changes : List Session.Action}
    (all : ∀ action ∈ changes, changesReply action = true) :
    (session.after changes).query? slot = session.query? slot := by
  induction changes generalizing session with
  | nil => rfl
  | cons action changes ih =>
      rw [List.forall_mem_cons] at all
      show ((session.step action).1.after changes).query? slot = _
      rw [ih all.2]
      cases action with
      | answerWith changed => rfl
      | _ => cases all.1

/-- A change of what the transport answers leaves every query as it is. -/
theorem leaves_of_changesReply {slot : Nat} {action : Session.Action}
    (changes : changesReply action = true) : action.Leaves slot := by
  cases action with
  | answerWith changed => exact ⟨rfl, nofun, nofun⟩
  | _ => cases changes

/-- **A callback is handed what a later execution answers**: later by the changes of what the
transport answers, and by nothing else.  So what is sent for it are the registry and the text
that its query had when it was executed.  It is handed an outcome once. -/
theorem finish_eq_execute (past between : List Action) (slot : Nat) (parameters : Parameters)
    (alive : ((start reply).after past).session.query? slot ≠ none)
    (spared : .finish ((start reply).after past).tasks.length ∉ between) :
    let task := ((start reply).after past).tasks.length
    let runtime := (start reply).after (past ++ .executeCallback slot parameters :: between)
    let earlier := past.filterMap Action.session?
    let changes := (between.filterMap Action.session?).filter changesReply
    Session.Answered reply (earlier ++ changes) (.on slot (.execute parameters))
        (runtime.step (.finish task)).2 ∧
      (∀ before template since, Session.Life earlier slot before template since →
        Session.Delivers reply (earlier ++ changes) slot (Session.ownRegistry slot before since)
          (Session.ownText slot template since)) ∧
      ((runtime.step (.finish task)).1.step (.finish task)).2 = .noQuery := by
  intro task runtime earlier changes
  obtain ⟨query, found⟩ := Option.ne_none_iff_exists'.1 alive
  have all : ∀ action ∈ changes, changesReply action = true :=
    fun action member => (List.mem_filter.1 member).2
  have split : runtime =
      (((start reply).after past).step (.executeCallback slot parameters)).1.after between :=
    List.foldl_append
  have waiting : runtime.tasks[task]? = some (some (query, parameters)) := by
    rw [split]
    exact task_after (task_of_executeCallback found) spared
  refine ⟨?_, fun before template since life => ?_, ?_⟩
  · have there : ((Session.start reply).after (earlier ++ changes)).query? slot = some query := by
      have begun : ((start reply).after past).session = (Session.start reply).after earlier :=
        session_after past
      rw [begun] at found
      rw [Session.after, List.foldl_append]
      exact (query?_after_changes all).trans found
    have sameReply : ((Session.start reply).after (earlier ++ changes)).reply =
        runtime.session.reply := by
      have ended : runtime.session = (Session.start reply).after _ := session_after _
      rw [ended, Session.reply_after, Session.reply_after, List.filterMap_append]
      exact currentReply_append reply earlier _ slot
    rw [Session.answered_iff, Session.step_on_of_some there rfl, answer_finish waiting, ← sameReply]
    rfl
  · exact Session.delivers_of_left life fun action member => leaves_of_changesReply (all action member)
  · obtain ⟨inside, _⟩ := List.getElem?_eq_some_iff.1 waiting
    have spent : (runtime.step (.finish task)).1.tasks[task]? = some none := by
      simp only [step, waiting]
      exact List.getElem?_set_self inside
    simp only [step, waiting] at spent ⊢
    rw [spent]

end SparqlRequest.Runtime
