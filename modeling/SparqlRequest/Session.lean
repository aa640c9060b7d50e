/-
# Session -- a client and its queries over a recorded transport

A session is one client, queries under numbers, and a transport that gives one and the
same answer to every delivery until the answer is changed.  Each step works on the client
or on the query of one number and answers what it shows.  Executing a query takes it
away, whatever the outcome; so does a failed declaration of well-known prefixes for it.
A term that cannot be made is reported before the query is looked for.
-/
import SparqlRequest.Client

set_option autoImplicit false

namespace SparqlRequest

/-- A client, its queries by number, and what its transport answers. -/
structure Session where
  client : Client
  queries : List (Nat × Query)
  reply : Except TransportError Text

namespace Session

/-- What can be asked of a query that exists. -/
inductive QueryAction where
  | bind (name replacement : Text)
  | bindTerm (name : Text) (recipe : Term.Recipe)
  | register (registration : Registration)
  | registerCommon (names : List Text)
  | registry
  | inspect
  | render
  | kind
  | execute (parameters : Parameters)

/-- A step of a session. -/
inductive Action where
  | register (registration : Registration)
  | registerCommon (names : List Text)
  | registry
  | inspect
  /-- Changes what the transport answers. -/
  | answerWith (reply : Except TransportError Text)
  | start (slot : Nat) (template : Text)
  | on (slot : Nat) (action : QueryAction)

/-- What a step answers. -/
inductive Answer where
  | done
  | registry (registry : Registry)
  | inspected (text : Text)
  | query (query : Query)
  | rendered (text : Text)
  | kind (kind : StatementKind)
  | executed (execution : Execution)
  | failed (error : Error)
  /-- There is no query under the number. -/
  | noQuery

def start (reply : Except TransportError Text) : Session := ⟨Client.new, [], reply⟩

def query? (session : Session) (slot : Nat) : Option Query :=
  (session.queries.find? fun entry => entry.1 = slot).map (·.2)

def drop (session : Session) (slot : Nat) : Session :=
  { session with queries := session.queries.filter fun entry => entry.1 ≠ slot }

/-- Puts a query under a number, in place of any other. -/
def put (session : Session) (slot : Nat) (query : Query) : Session :=
  { session with queries := (slot, query) :: (session.drop slot).queries }

/-- A result, or its failure as an answer. -/
def answerOf {α : Type} (answer : α → Answer) : Except Error α → Answer
  | .ok value => answer value
  | .error error => .failed error

def queryStep (session : Session) (slot : Nat) (query : Query) : QueryAction → Session × Answer
  | .bind name replacement =>
      let next := query.bind name replacement
      (session.put slot next, .query next)
  | .bindTerm name recipe =>
      match recipe.build with
      | .error error => (session, .failed error)
      | .ok term =>
          let next := query.bindTerm name term
          (session.put slot next, .query next)
  | .register registration =>
      let next := query.register registration
      (session.put slot next, .registry next.registry)
  | .registerCommon names =>
      match query.registerCommon names with
      | .error error => (session.drop slot, .failed error)
      | .ok next => (session.put slot next, .registry next.registry)
  | .registry => (session, .registry query.registry)
  | .inspect => (session, .inspected query.inspect)
  | .render => (session, answerOf .rendered query.render)
  | .kind => (session, answerOf .kind query.kind)
  | .execute parameters =>
      (session.drop slot, .executed (query.execute (fun _ => session.reply) parameters))

/-- What a step fails with before its query is looked for. -/
def QueryAction.fault? : QueryAction → Option Error
  | .bindTerm _ recipe =>
      match recipe.build with
      | .error error => some error
      | .ok _ => none
  | _ => none

def step (session : Session) : Action → Session × Answer
  | .register registration =>
      let client := session.client.register registration
      ({ session with client := client }, .registry client.registry)
  | .registerCommon names =>
      match session.client.registerCommon names with
      | .error error => (session, .failed error)
      | .ok client => ({ session with client := client }, .registry client.registry)
  | .registry => (session, .registry session.client.registry)
  | .inspect => (session, .inspected session.client.inspect)
  | .answerWith reply => ({ session with reply := reply }, .done)
  | .start slot template =>
      let query := session.client.query template
      (session.put slot query, .query query)
  | .on slot action =>
      match action.fault?, session.query? slot with
      | some error, _ => (session, .failed error)
      | none, none => (session, .noQuery)
      | none, some query => session.queryStep slot query action

def run (session : Session) : List Action → List Answer
  | [] => []
  | action :: actions =>
      let (next, answer) := session.step action
      answer :: run next actions

end Session

end SparqlRequest
