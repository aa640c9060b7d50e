/-
# Runtime -- a session with executions that are left to tasks

Executing a query with a callback takes the query away at once, and leaves its execution to a
task of its own.  The task runs whenever the runtime lets it, over the transport as it answers
then, and hands the outcome to the callback; that is the end of the task.  A task is known by
its place among all that were ever started.
-/
import SparqlRequest.Session

set_option autoImplicit false

namespace SparqlRequest

/-- A session and its tasks, those that are over as `none`. -/
structure Runtime where
  session : Session
  tasks : List (Option (Query × Parameters))

namespace Runtime

inductive Action where
  | step (action : Session.Action)
  | executeCallback (slot : Nat) (parameters : Parameters)
  /-- Lets a task run to its end. -/
  | finish (task : Nat)

def start (reply : Except TransportError Text) : Runtime := ⟨Session.start reply, []⟩

/-- One step.  The answer to the end of a task is what its callback is handed. -/
def step (runtime : Runtime) : Action → Runtime × Session.Answer
  | .step action =>
      ({ runtime with session := (runtime.session.step action).1 },
        (runtime.session.step action).2)
  | .executeCallback slot parameters =>
      match runtime.session.query? slot with
      | none => (runtime, .noQuery)
      | some query =>
          (⟨runtime.session.drop slot, runtime.tasks ++ [some (query, parameters)]⟩, .done)
  | .finish task =>
      match runtime.tasks[task]? with
      | some (some (query, parameters)) =>
          ({ runtime with tasks := runtime.tasks.set task none },
            .executed (query.execute (fun _ => runtime.session.reply) parameters))
      | _ => (runtime, .noQuery)

end Runtime

end SparqlRequest
