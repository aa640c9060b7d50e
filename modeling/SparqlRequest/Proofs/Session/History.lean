/-
# Proofs.Session.History -- the state of a session read off its steps

What a session holds after a run of steps is a matter of a few of them.  The registry of
its client comes from the registrations for the client (`client_after`), what its
transport answers from the last change of it (`reply_after`), and the query of a number
from the step that started it and the steps on that number since (`query?_after`).

A life is a split of a history at such a start, `Life`: behind it, nothing has put another
query under the number or taken the query away.  There is one exactly while the query
exists.  Of the steps before the start a query remembers the registry that the client then
had, and nothing else.
-/
import Mathlib.Data.List.Induction
import SparqlRequest.Proofs.Registry.WellKnown
import SparqlRequest.Session

set_option autoImplicit false

namespace SparqlRequest

/-! ## What a step contributes -/

namespace Registry

def registerAll (registry : Registry) (registrations : List Registration) : Registry :=
  registrations.foldl register registry

end Registry

namespace Session

namespace QueryAction

def registration? : QueryAction → Option Registration
  | .register registration => some registration
  | .registerCommon names => Registry.common? names
  | _ => none

def binding? : QueryAction → Option (Text × Text)
  | .bind name replacement => some (name, replacement)
  | .bindTerm name recipe =>
      match recipe.build with
      | .ok term => some (name, term.format)
      | .error _ => none
  | _ => none

/-- An action takes its query away when it executes it, and when it asks for a name that
is not well known. -/
def ends : QueryAction → Bool
  | .execute _ => true
  | .registerCommon names => (Registry.common? names).isNone
  | _ => false

end QueryAction

namespace Action

def registration? : Action → Option Registration
  | .register registration => some registration
  | .registerCommon names => Registry.common? names
  | _ => none

def reply? : Action → Option (Except TransportError Text)
  | .answerWith reply => some reply
  | _ => none

/-- What a step does to the query of a number. -/
def on? (slot : Nat) : Action → Option QueryAction
  | .on other action => if other = slot then some action else none
  | _ => none

/-- A step starts a query under a number, or takes away the one that is there. -/
def settles (slot : Nat) : Action → Bool
  | .start other _ => other = slot
  | .on other action => other = slot && action.ends
  | _ => false

/-- A step leaves the query of a number as it is: it may look at it, or be about something
else, but it neither binds nor registers for it. -/
structure Leaves (slot : Nat) (action : Action) : Prop where
  kept : action.settles slot = false
  unbound : ∀ own ∈ action.on? slot, own.binding? = none
  unregistered : ∀ own ∈ action.on? slot, own.registration? = none

end Action

def clientRegistry (past : List Action) : Registry :=
  Registry.empty.registerAll (past.filterMap Action.registration?)

def currentReply (reply : Except TransportError Text) (past : List Action) :
    Except TransportError Text :=
  (past.filterMap Action.reply?).getLast?.getD reply

/-- The actions of a history on the query of a number. -/
def own (slot : Nat) (past : List Action) : List QueryAction := past.filterMap (Action.on? slot)

/-- The registry of a query: what its client had declared before it was started, then its
own registrations in order. -/
def ownRegistry (slot : Nat) (before since : List Action) : Registry :=
  (clientRegistry before).registerAll ((own slot since).filterMap QueryAction.registration?)

/-- The working text of a query: its template with its own bindings in order. -/
def ownText (slot : Nat) (template : Text) (since : List Action) : Text :=
  ((own slot since).filterMap QueryAction.binding?).foldl
    (fun t binding => Placeholder.substitute binding.1 binding.2 t) template

/-- The query of a number was started behind `before` and has been there `since`. -/
structure Life (past : List Action) (slot : Nat) (before : List Action) (template : Text)
    (since : List Action) : Prop where
  split : past = before ++ .start slot template :: since
  kept : ∀ action ∈ since, action.settles slot = false

/-! ## Lives -/

theorem filterMap_append_singleton {α β : Type} (f : α → Option β) (l : List α) (a : α) :
    (l ++ [a]).filterMap f = l.filterMap f ++ (f a).toList := by
  rw [List.filterMap_append, List.filterMap_cons]
  cases f a with
  | none => rfl
  | some b => rfl

theorem life_append_singleton {past before since : List Action} {action : Action} {slot : Nat}
    {template : Text} :
    Life (past ++ [action]) slot before template since ↔
      (∃ earlier, since = earlier ++ [action] ∧ action.settles slot = false ∧
        Life past slot before template earlier) ∨
      (since = [] ∧ before = past ∧ action = .start slot template) := by
  constructor
  · rintro ⟨split, kept⟩
    cases since using List.reverseRecOn with
    | nil =>
        obtain ⟨same, last⟩ := List.append_inj' split rfl
        exact Or.inr ⟨rfl, same.symm, (List.cons.inj last).1⟩
    | append_singleton earlier final _ =>
        rw [← List.cons_append, ← List.append_assoc] at split
        obtain ⟨same, last⟩ := List.append_inj' split rfl
        obtain rfl := (List.cons.inj last).1
        rw [List.forall_mem_append, List.forall_mem_singleton] at kept
        exact Or.inl ⟨earlier, rfl, kept.2, same, kept.1⟩
  · rintro (⟨earlier, rfl, keeps, split, kept⟩ | ⟨rfl, rfl, rfl⟩)
    · refine ⟨?_, ?_⟩
      · rw [split, List.append_assoc, List.cons_append]
      · rw [List.forall_mem_append, List.forall_mem_singleton]
        exact ⟨kept, keeps⟩
    · exact ⟨rfl, List.forall_mem_nil _⟩

variable {past before since between : List Action} {template : Text} {slot other : Nat}
  {action : Action}

/-- A step that settles nothing prolongs the life of a query. -/
theorem life_append_of_kept (kept : action.settles slot = false) :
    Life (past ++ [action]) slot before template since ↔
      ∃ earlier, since = earlier ++ [action] ∧ Life past slot before template earlier := by
  rw [life_append_singleton]
  constructor
  · rintro (⟨earlier, split, -, life⟩ | ⟨-, -, rfl⟩)
    · exact ⟨earlier, split, life⟩
    · simp [Action.settles] at kept
  · rintro ⟨earlier, split, life⟩
    exact Or.inl ⟨earlier, split, kept, life⟩

/-- Behind a step that settles a number there is no life but the one it starts. -/
theorem life_append_of_settled (settled : action.settles slot = true) :
    Life (past ++ [action]) slot before template since ↔
      since = [] ∧ before = past ∧ action = .start slot template := by
  rw [life_append_singleton, settled]
  exact or_iff_right fun ⟨_, _, kept, _⟩ => nomatch kept

/-- Steps that leave a query as it is are a part of its life. -/
theorem Life.append (life : Life past slot before template since)
    (left : ∀ action ∈ between, action.Leaves slot) :
    Life (past ++ between) slot before template (since ++ between) where
  split := by rw [life.split, List.append_assoc, List.cons_append]
  kept := List.forall_mem_append.2 ⟨life.kept, fun action member => (left action member).kept⟩

theorem own_append (slot : Nat) (past more : List Action) :
    own slot (past ++ more) = own slot past ++ own slot more := List.filterMap_append

theorem filterMap_own_eq_nil {β : Type} {part : QueryAction → Option β}
    (silent : ∀ step ∈ between, ∀ action ∈ step.on? slot, part action = none) :
    (own slot between).filterMap part = [] := by
  rw [List.filterMap_eq_nil_iff]
  intro action member
  obtain ⟨step, inside, found⟩ := List.mem_filterMap.1 member
  exact silent step inside action found

theorem ownRegistry_append (left : ∀ action ∈ between, action.Leaves slot) :
    ownRegistry slot before (since ++ between) = ownRegistry slot before since := by
  rw [ownRegistry, own_append, List.filterMap_append,
    filterMap_own_eq_nil fun step member => (left step member).unregistered, List.append_nil,
    ownRegistry]

/-- Steps that leave a query leave its text. -/
theorem ownText_append (left : ∀ action ∈ between, action.Leaves slot) :
    ownText slot template (since ++ between) = ownText slot template since := by
  rw [ownText, own_append, List.filterMap_append,
    filterMap_own_eq_nil fun step member => (left step member).unbound, List.append_nil, ownText]

/-! ## Numbers and their queries -/

variable {session : Session} {query : Query}

theorem query?_drop :
    (session.drop slot).query? other = if other = slot then none else session.query? other := by
  rw [query?, drop, List.find?_filter]
  by_cases same : other = slot
  · rw [if_pos same, Option.map_eq_none_iff, List.find?_eq_none]
    simp [same]
  · rw [if_neg same, query?]
    congr 2
    funext entry
    by_cases here : entry.1 = other
    · simp [here, same]
    · simp [here]

theorem query?_put :
    (session.put slot query).query? other =
      if other = slot then some query else session.query? other := by
  by_cases same : other = slot
  · rw [if_pos same, query?, put, List.find?_cons_of_pos (by simp [same])]
    rfl
  · have elsewhere : (session.put slot query).query? other = (session.drop slot).query? other := by
      rw [query?, put, List.find?_cons_of_neg (by simpa using Ne.symm same)]
      rfl
    rw [elsewhere, query?_drop, if_neg same, if_neg same]

/-! ## One step -/

/-- A query after an action that leaves it there. -/
def advance (query : Query) (action : QueryAction) : Query :=
  { query with
    text := action.binding?.elim query.text fun binding =>
      Placeholder.substitute binding.1 binding.2 query.text
    registry := action.registration?.elim query.registry query.registry.register }

/-- A step on a query touches no query under another number. -/
theorem query?_queryStep (found : session.query? slot = some query) (action : QueryAction) :
    (session.queryStep slot query action).1.query? other =
      if other = slot then if action.ends then none else some (advance query action)
      else session.query? other := by
  have unchanged : session.query? other =
      if other = slot then some query else session.query? other := by
    by_cases same : other = slot
    · rw [if_pos same, same, found]
    · rw [if_neg same]
  cases action with
  | bind name replacement => exact query?_put
  | bindTerm name recipe =>
      cases built : recipe.build with
      | error error =>
          simp only [queryStep, advance, QueryAction.binding?, QueryAction.registration?, built]
          exact unchanged
      | ok term =>
          simp only [queryStep, advance, QueryAction.binding?, QueryAction.registration?, built]
          exact query?_put
  | register registration => exact query?_put
  | registerCommon names =>
      cases known : Registry.common? names with
      | none =>
          obtain ⟨error, failed⟩ := Registry.registerCommon_of_no_common? known query.registry
          simp only [queryStep, Query.registerCommon, failed, QueryAction.ends, known]
          exact query?_drop
      | some registration =>
          simp only [queryStep, Query.registerCommon,
            Registry.registerCommon_of_common? known query.registry, QueryAction.ends, advance,
            QueryAction.binding?, QueryAction.registration?, known]
          exact query?_put
  | registry => exact unchanged
  | inspect => exact unchanged
  | render => exact unchanged
  | kind => exact unchanged
  | execute parameters => exact query?_drop

theorem queryStep_client (action : QueryAction) :
    (session.queryStep slot query action).1.client = session.client ∧
      (session.queryStep slot query action).1.reply = session.reply := by
  cases action with
  | bindTerm name recipe =>
      simp only [queryStep]
      split <;> exact ⟨rfl, rfl⟩
  | registerCommon names =>
      simp only [queryStep]
      split <;> exact ⟨rfl, rfl⟩
  | _ => exact ⟨rfl, rfl⟩

theorem queryStep_of_fault {action : QueryAction} {error : Error}
    (faulty : action.fault? = some error) :
    (session.queryStep slot query action).1 = session := by
  cases action with
  | bindTerm name recipe =>
      rw [queryStep]
      cases built : recipe.build with
      | error error => rfl
      | ok term => simp [QueryAction.fault?, built] at faulty
  | _ => cases faulty

/-- A step on a number works on the query that is there, and does nothing without one; a
term that cannot be made changes nothing either way. -/
theorem step_on (action : QueryAction) :
    (session.step (.on slot action)).1 =
      (session.query? slot).elim session fun query =>
        (session.queryStep slot query action).1 := by
  cases faulty : action.fault? with
  | none =>
      simp only [step, faulty]
      cases session.query? slot with
      | none => rfl
      | some query => rfl
  | some error =>
      simp only [step, faulty]
      cases session.query? slot with
      | none => rfl
      | some query => exact (queryStep_of_fault faulty).symm

theorem query?_step_on (action : QueryAction) :
    (session.step (.on slot action)).1.query? other =
      if other = slot then
        (session.query? slot).bind fun query =>
          if action.ends then none else some (advance query action)
      else session.query? other := by
  rw [step_on]
  cases found : session.query? slot with
  | none =>
      rw [Option.elim_none, Option.bind_none]
      by_cases same : other = slot
      · rw [if_pos same, same, found]
      · rw [if_neg same]
  | some query => exact query?_queryStep found action

/-- A step that settles nothing leaves a query there, with what the step does to it. -/
theorem query?_step_of_kept {action : Action} (kept : action.settles slot = false) :
    (session.step action).1.query? slot =
      (session.query? slot).map fun query => (action.on? slot).toList.foldl advance query := by
  have untouched : session.query? slot = (session.query? slot).map fun query => query :=
    Option.map_id'.symm
  cases action with
  | start other template =>
      have elsewhere : slot ≠ other := by
        rintro rfl
        simp [Action.settles] at kept
      simp only [step]
      rw [query?_put, if_neg elsewhere]
      exact untouched
  | on other action =>
      rw [query?_step_on, Action.on?]
      by_cases same : slot = other
      · subst same
        have stays : action.ends = false := by simpa [Action.settles] using kept
        rw [if_pos rfl, if_pos rfl, stays, Option.map_eq_bind]
        rfl
      · rw [if_neg same, if_neg (Ne.symm same)]
        exact untouched
  | registerCommon names =>
      simp only [step]
      split <;> exact untouched
  | _ => exact untouched

/-- A step that settles a number starts a query there or leaves none. -/
theorem query?_step_of_settled {action : Action} (settled : action.settles slot = true) :
    (session.step action).1.query? slot =
      match action with
      | .start _ template => some (session.client.query template)
      | _ => none := by
  cases action with
  | start other template =>
      obtain rfl : other = slot := by simpa [Action.settles] using settled
      simp only [step]
      rw [query?_put, if_pos rfl]
  | on other action =>
      obtain ⟨rfl, leaves⟩ : other = slot ∧ action.ends = true := by
        simpa [Action.settles] using settled
      rw [query?_step_on, if_pos rfl, leaves]
      cases session.query? other with
      | none => rfl
      | some query => rfl
  | _ => cases settled

/-- The client changes by registrations for the client alone. -/
theorem client_step (action : Action) :
    (session.step action).1.client.registry =
      session.client.registry.registerAll action.registration?.toList := by
  cases action with
  | registerCommon names =>
      cases known : Registry.common? names with
      | none =>
          obtain ⟨error, failed⟩ :=
            Registry.registerCommon_of_no_common? known session.client.registry
          simp only [step, Client.registerCommon, failed, Action.registration?, known]
          rfl
      | some registration =>
          simp only [step, Client.registerCommon, Action.registration?, known,
            Registry.registerCommon_of_common? known session.client.registry]
          rfl
  | on slot action =>
      rw [step_on]
      cases session.query? slot with
      | none => rfl
      | some query => exact congrArg Client.registry (queryStep_client action).1
  | _ => rfl

theorem reply_step (action : Action) :
    (session.step action).1.reply = action.reply?.getD session.reply := by
  cases action with
  | registerCommon names =>
      simp only [step]
      split <;> rfl
  | on slot action =>
      rw [step_on]
      cases session.query? slot with
      | none => rfl
      | some query => exact (queryStep_client action).2
  | _ => rfl

/-! ## Runs -/

def after (session : Session) (actions : List Action) : Session :=
  actions.foldl (fun session action => (session.step action).1) session

theorem after_append_singleton (session : Session) (past : List Action) (action : Action) :
    session.after (past ++ [action]) = ((session.after past).step action).1 :=
  List.foldl_append

/-- A run goes on from the session that its first part leaves. -/
theorem run_append (session : Session) (past more : List Action) :
    session.run (past ++ more) = session.run past ++ (session.after past).run more := by
  induction past generalizing session with
  | nil => rfl
  | cons action past ih =>
      rw [List.cons_append]
      exact congrArg (List.cons (session.step action).2) (ih _)

theorem length_run (session : Session) (actions : List Action) :
    (session.run actions).length = actions.length := by
  induction actions generalizing session with
  | nil => rfl
  | cons action actions ih => exact congrArg Nat.succ (ih _)

/-- What a step answers is a matter of the steps before it. -/
theorem run_getElem? (session : Session) (past future : List Action) (action : Action) :
    (session.run (past ++ action :: future))[past.length]? =
      some ((session.after past).step action).2 := by
  rw [run_append, List.getElem?_append_right (Nat.le_of_eq (length_run session past)),
    length_run, Nat.sub_self]
  rfl

variable (reply : Except TransportError Text)

/-- The client holds the registrations that were made for it, in order. -/
theorem client_after (past : List Action) :
    ((start reply).after past).client.registry = clientRegistry past := by
  induction past using List.reverseRecOn with
  | nil => rfl
  | append_singleton past action ih =>
      rw [after_append_singleton, client_step, ih, clientRegistry, clientRegistry,
        filterMap_append_singleton]
      exact List.foldl_append.symm

theorem reply_after (past : List Action) :
    ((start reply).after past).reply = currentReply reply past := by
  induction past using List.reverseRecOn with
  | nil => rfl
  | append_singleton past action ih =>
      rw [after_append_singleton, reply_step, ih, currentReply, currentReply,
        filterMap_append_singleton]
      cases action.reply? with
      | none => rw [Option.toList_none, List.append_nil, Option.getD_none]
      | some other =>
          rw [Option.toList_some, List.getLast?_concat, Option.getD_some, Option.getD_some]

theorem own_append_singleton (slot : Nat) (past : List Action) (action : Action) :
    own slot (past ++ [action]) = own slot past ++ (action.on? slot).toList :=
  filterMap_append_singleton ..

/-- **A query exists exactly during its life**, and is its template under the registry that
its client had, advanced by its own actions. -/
theorem query?_after (past : List Action) :
    ((start reply).after past).query? slot = some query ↔
      ∃ before template since, Life past slot before template since ∧
        (own slot since).foldl advance (Query.create template (clientRegistry before)) =
          query := by
  induction past using List.reverseRecOn generalizing query with
  | nil =>
      constructor
      · intro found
        cases found
      · rintro ⟨before, template, since, ⟨split, -⟩, -⟩
        exact absurd split.symm (List.append_ne_nil_of_right_ne_nil _ (List.cons_ne_nil _ _))
  | append_singleton past action ih =>
      rw [after_append_singleton]
      cases settled : action.settles slot with
      | false =>
          rw [query?_step_of_kept settled, Option.map_eq_some_iff]
          constructor
          · rintro ⟨earlier, found, rfl⟩
            obtain ⟨before, template, since, life, rfl⟩ := ih.1 found
            refine ⟨before, template, since ++ [action], ?_, ?_⟩
            · exact (life_append_of_kept settled).2 ⟨since, rfl, life⟩
            · rw [own_append_singleton, List.foldl_append]
          · rintro ⟨before, template, since, prolonged, rfl⟩
            obtain ⟨earlier, rfl, life⟩ := (life_append_of_kept settled).1 prolonged
            refine ⟨_, ih.2 ⟨before, template, earlier, life, rfl⟩, ?_⟩
            rw [own_append_singleton, List.foldl_append]
      | true =>
          simp only [query?_step_of_settled settled, life_append_of_settled settled]
          cases action with
          | start other template =>
              obtain rfl : other = slot := by simpa [Action.settles] using settled
              rw [Option.some.injEq, Client.query, client_after]
              constructor
              · intro begun
                exact ⟨past, template, [], ⟨rfl, rfl, rfl⟩, begun⟩
              · rintro ⟨before, text, since, ⟨rfl, rfl, same⟩, begun⟩
                cases same
                exact begun
          | _ =>
              constructor
              · exact nofun
              · rintro ⟨before, text, since, ⟨-, -, same⟩, -⟩
                cases same

theorem foldl_advance (actions : List QueryAction) (query : Query) :
    (actions.foldl advance query).registry =
        query.registry.registerAll (actions.filterMap QueryAction.registration?) ∧
      (actions.foldl advance query).text =
        (actions.filterMap QueryAction.binding?).foldl
          (fun t binding => Placeholder.substitute binding.1 binding.2 t) query.text := by
  induction actions generalizing query with
  | nil => exact ⟨rfl, rfl⟩
  | cons action actions ih =>
      obtain ⟨registry, text⟩ := ih (advance query action)
      rw [List.foldl_cons, registry, text, List.filterMap_cons, List.filterMap_cons, advance]
      constructor
      · cases action.registration? with
        | none => rfl
        | some registration => rfl
      · cases action.binding? with
        | none => rfl
        | some binding => rfl

/-- A query that is alive has its own registry and its own text. -/
theorem query?_of_life (life : Life past slot before template since) :
    ∃ query, ((start reply).after past).query? slot = some query ∧
      query.registry = ownRegistry slot before since ∧
      query.text = ownText slot template since := by
  refine ⟨_, (query?_after reply past).2 ⟨before, template, since, life, rfl⟩, ?_⟩
  exact foldl_advance (own slot since) (Query.create template (clientRegistry before))

end Session

end SparqlRequest
