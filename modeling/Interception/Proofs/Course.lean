import Interception.Proofs.Lifecycle
import Interception.Proofs.Simulation

/-!
# The course of a request

A request takes its steps one after the other, each in the state that the one before it has left:
interceptors are selected, they are called before the handler, the handler, they are called after
it, a view is looked up, and it is rendered. `Reaches` tells which steps are taken, and in which
states; a step is taken only if all steps before it went well. `Raises` tells which error a step
that fails ends the request with.

A request fails with an error if and only if it reaches a step that raises the error. Of
interceptors only the two hooks around the handler enter into it.
-/

namespace Interception

variable {S α σ : Type}

/-! ## Hooks in turn -/

/-- All hooks end as hoped for, each in the state that the one before it has left. -/
inductive Through (fine : α) : List (Activity S α) → S → S → Prop where
  | done (s : S) : Through fine [] s s
  | next {hook : Activity S α} {hooks : List (Activity S α)} {s t : S}
      (own : (hook s).result = fine) (rest : Through fine hooks (hook s).state t) :
      Through fine (hook :: hooks) s t

/-- The hook has its turn in the state `t`: those before it ended as hoped for. -/
def HasTurn (fine : α) (hooks : List (Activity S α)) (s : S) (hook : Activity S α) (t : S) :
    Prop :=
  ∃ earlier later, hooks = earlier ++ hook :: later ∧ Through fine earlier s t

section Turns

variable {fine : α} {hook first : Activity S α} {hooks : List (Activity S α)} {s t : S}

theorem through_nil_iff : Through fine [] s t ↔ t = s := by
  constructor
  · rintro ⟨⟩
    rfl
  · rintro rfl
    exact .done t

theorem through_cons_iff :
    Through fine (first :: hooks) s t ↔
      (first s).result = fine ∧ Through fine hooks (first s).state t := by
  constructor
  · rintro (_ | ⟨own, rest⟩)
    exact ⟨own, rest⟩
  · rintro ⟨own, rest⟩
    exact .next own rest

theorem through_append_iff {earlier later : List (Activity S α)} :
    Through fine (earlier ++ later) s t ↔
      ∃ u, Through fine earlier s u ∧ Through fine later u t := by
  induction earlier generalizing s with
  | nil => simp [through_nil_iff]
  | cons first earlier ih => simp [through_cons_iff, ih, and_assoc]

/-- Hooks that end as hoped for lead to one state. -/
theorem Through.unique {u : S} (h : Through fine hooks s t) (h' : Through fine hooks s u) :
    t = u := by
  induction h with
  | done s => exact (through_nil_iff.mp h').symm
  | next _ _ ih => exact ih (through_cons_iff.mp h').2

theorem not_hasTurn_nil : ¬ HasTurn fine [] s hook t := by
  rintro ⟨earlier, later, split, _⟩
  simp at split

theorem hasTurn_cons_iff :
    HasTurn fine (first :: hooks) s hook t ↔
      (hook = first ∧ t = s) ∨
        ((first s).result = fine ∧ HasTurn fine hooks (first s).state hook t) := by
  constructor
  · rintro ⟨earlier, later, split, through⟩
    cases earlier with
    | nil =>
        obtain ⟨rfl, _⟩ := List.cons.inj split
        exact .inl ⟨rfl, through_nil_iff.mp through⟩
    | cons _ earlier =>
        obtain ⟨rfl, rest⟩ := List.cons.inj split
        obtain ⟨own, through⟩ := through_cons_iff.mp through
        exact .inr ⟨own, earlier, later, rest, through⟩
  · rintro (⟨rfl, rfl⟩ | ⟨own, earlier, later, rfl, through⟩)
    · exact ⟨[], hooks, rfl, .done t⟩
    · exact ⟨first :: earlier, later, rfl, .next own through⟩

/-- Either all hooks end as hoped for, or one has its turn and does not. -/
theorem through_or_hasTurn (fine : α) (hooks : List (Activity S α)) (s : S) :
    (∃ t, Through fine hooks s t) ∨
      ∃ hook t, HasTurn fine hooks s hook t ∧ (hook t).result ≠ fine := by
  induction hooks generalizing s with
  | nil => exact .inl ⟨s, .done s⟩
  | cons first hooks ih =>
      by_cases own : (first s).result = fine
      · obtain ⟨t, through⟩ | ⟨hook, t, turn, stop⟩ := ih (first s).state
        · exact .inl ⟨t, .next own through⟩
        · exact .inr ⟨hook, t, hasTurn_cons_iff.mpr (.inr ⟨own, turn⟩), stop⟩
      · exact .inr ⟨first, s, hasTurn_cons_iff.mpr (.inl ⟨rfl, rfl⟩), own⟩

end Turns

/-! ## Steps -/

/-- The hooks that a request may call, in the order in which they are called. -/
structure Agenda (σ : Type) where
  before : List (Activity (Exchange σ) (Except Failure Bool))
  after : List (Activity (Exchange σ × Option (ModelAndView σ)) (Except Failure Unit))

/-- The hooks of interceptors: those after the handler are called in reverse order. -/
def Agenda.ofList (interceptors : List (Interceptor σ)) (request : Request) (handler : HandlerRef) :
    Agenda σ where
  before := interceptors.map fun i => i.preHandle request handler
  after := interceptors.reverse.map fun i => i.postHandle request handler

/-- A step of a request, with what it is taken on. -/
inductive Step (σ : Type) where
  | selection
  | before (hook : Activity (Exchange σ) (Except Failure Bool)) (on : Exchange σ)
  | handling (on : Exchange σ)
  | after (hook : Activity (Exchange σ × Option (ModelAndView σ)) (Except Failure Unit))
      (on : Exchange σ × Option (ModelAndView σ))
  | resolution (ref : ViewRef σ)
  | rendering (view : View σ) (model : Model) (on : Exchange σ)

namespace Dispatcher

/-- The hooks of the interceptors that are selected for a request. -/
def agenda (d : Dispatcher σ) (request : Request) : Except PatternError (Agenda σ) :=
  (d.registry.select (d.pathOf request)).map fun entries =>
    .ofList (entries.map fun entry => entry.1.interceptor) request d.handlerRef

/-- The exchange on which the first hook is called: the selection of so many interceptors has been
reported, and the request. -/
def opened (d : Dispatcher σ) (request : Request) (count : Nat) (x : Exchange σ) : Exchange σ :=
  (x.report (d.registry.selected (d.pathOf request) count)).report
    (dispatching request (d.pathOf request) count)

/-- The request gets past the hooks before the handler. -/
def Proceeds (d : Dispatcher σ) (request : Request) (x : Exchange σ) (agenda : Agenda σ)
    (on : Exchange σ) : Prop :=
  d.agenda request = .ok agenda ∧
    Through (.ok true) agenda.before (d.opened request agenda.before.length x) on

/-- The handler returns an answer. -/
def Answers (d : Dispatcher σ) (request : Request) (x : Exchange σ) (agenda : Agenda σ)
    (s : Exchange σ × Option (ModelAndView σ)) : Prop :=
  ∃ on, d.Proceeds request x agenda on ∧
    (d.handler request on).result = .ok s.2 ∧ (d.handler request on).state = s.1

/-- The hooks after the handler end well, with the exchange and the answer as they leave them. -/
def Leaves (d : Dispatcher σ) (request : Request) (x : Exchange σ)
    (s : Exchange σ × Option (ModelAndView σ)) : Prop :=
  ∃ agenda s₀, d.Answers request x agenda s₀ ∧ Through (.ok ()) agenda.after s₀ s

/-- The request takes a step, as all steps before it went well. -/
inductive Reaches (d : Dispatcher σ) (request : Request) (x : Exchange σ) : Step σ → Prop where
  | selection : Reaches d request x .selection
  | before {agenda : Agenda σ} {hook : Activity (Exchange σ) (Except Failure Bool)}
      {on : Exchange σ} (planned : d.agenda request = .ok agenda)
      (turn : HasTurn (.ok true) agenda.before (d.opened request agenda.before.length x) hook on) :
      Reaches d request x (.before hook on)
  | handling {agenda : Agenda σ} {on : Exchange σ} (proceeds : d.Proceeds request x agenda on) :
      Reaches d request x (.handling on)
  | after {agenda : Agenda σ} {s t : Exchange σ × Option (ModelAndView σ)}
      {hook : Activity (Exchange σ × Option (ModelAndView σ)) (Except Failure Unit)}
      (answers : d.Answers request x agenda s) (turn : HasTurn (.ok ()) agenda.after s hook t) :
      Reaches d request x (.after hook t)
  | resolution {on : Exchange σ} {m : ModelAndView σ} {ref : ViewRef σ}
      (leaves : d.Leaves request x (on, some m)) (chosen : m.view = some ref) :
      Reaches d request x (.resolution ref)
  | rendering {on : Exchange σ} {m : ModelAndView σ} {ref : ViewRef σ} {view : View σ}
      (leaves : d.Leaves request x (on, some m)) (chosen : m.view = some ref)
      (found : d.resolve ref = .ok view) :
      Reaches d request x (.rendering view m.model (readyFor m on))

/-- The step fails, and the request with it. The texts are those of what was raised: its own and
those of its causes. -/
inductive Raises (d : Dispatcher σ) (request : Request) :
    Step σ → DispatchError → List String → Prop where
  | selection {e : PatternError} (failed : d.agenda request = .error e) :
      Raises d request .selection (.pattern e) [e.message]
  | before {hook : Activity (Exchange σ) (Except Failure Bool)} {on : Exchange σ}
      {failure : Failure} (failed : (hook on).result = .error failure) :
      Raises d request (.before hook on) (.interceptor failure)
        (failure.text :: failure.causes)
  | handling {on : Exchange σ} {failure : Failure}
      (failed : (d.handler request on).result = .error failure) :
      Raises d request (.handling on) (.handler failure) (failure.text :: failure.causes)
  | after {hook : Activity (Exchange σ × Option (ModelAndView σ)) (Except Failure Unit)}
      {on : Exchange σ × Option (ModelAndView σ)} {failure : Failure}
      (failed : (hook on).result = .error failure) :
      Raises d request (.after hook on) (.interceptor failure)
        (failure.text :: failure.causes)
  | resolution {name : String} (missing : d.resolver.bind (fun resolver => resolver name) = none) :
      Raises d request (.resolution (.named name)) (.unresolvedView name) []
  | rendering {view : View σ} {model : Model} {on : Exchange σ} {e : RenderError}
      (failed : (view.render (some model) request on).1 = .error e) :
      Raises d request (.rendering view model on) (.render e) (e.message :: e.causes)

end Dispatcher

/-! ## Runs of hooks -/

namespace Chain

variable {request : Request} {handler : HandlerRef} {interceptors : List (Interceptor σ)}

/-- When all interceptors let the request go on, all of them are to be completed. -/
theorem preHandleFrom_of_through (front : List (Interceptor σ)) {x on : Exchange σ}
    (all : Through (.ok true) (interceptors.map fun i => i.preHandle request handler) x on) :
    let run := preHandleFrom request handler (between front interceptors) front.length interceptors x
    run.result = (.ok true, between (front ++ interceptors) []) ∧ run.state = on := by
  induction interceptors generalizing front x with
  | nil =>
      obtain rfl := through_nil_iff.mp all
      rw [List.append_nil]
      exact ⟨rfl, rfl⟩
  | cons i interceptors ih =>
      obtain ⟨own, rest⟩ := through_cons_iff.mp all
      have next := ih (front ++ [i]) rest
      rw [List.length_append, ← between_cons, List.append_assoc] at next
      simp only [preHandleFrom, Activity.bind_apply, Run.result_bind, Run.state_bind, own]
      exact next

/-- The same for a chain on which nothing has been called yet. -/
theorem preHandle_of_through {x on : Exchange σ}
    (all : Through (.ok true) (interceptors.map fun i => i.preHandle request handler) x on) :
    ((ofList interceptors).preHandle request handler x).result =
        (.ok true, between interceptors []) ∧
      ((ofList interceptors).preHandle request handler x).state = on :=
  preHandleFrom_of_through [] all

/-- The first hook that does not let the request go on decides. -/
theorem preHandleFrom_of_hasTurn (c : Chain σ) (position : Nat) {x on : Exchange σ}
    {hook : Activity (Exchange σ) (Except Failure Bool)}
    (turn : HasTurn (.ok true) (interceptors.map fun i => i.preHandle request handler) x hook on)
    (stop : (hook on).result ≠ .ok true) :
    (preHandleFrom request handler c position interceptors x).result.1 = (hook on).result := by
  induction interceptors generalizing c position x with
  | nil => exact absurd turn not_hasTurn_nil
  | cons i interceptors ih =>
      obtain ⟨rfl, rfl⟩ | ⟨own, rest⟩ := hasTurn_cons_iff.mp turn
      · simp only [preHandleFrom, Activity.bind_apply, Run.result_bind]
        match answer : (i.preHandle request handler on).result with
        | .error failure => rfl
        | .ok false =>
            simp only [Activity.bind_apply, Run.result_bind]
            rfl
        | .ok true => exact absurd answer stop
      · simp only [preHandleFrom, Activity.bind_apply, Run.result_bind, own]
        exact ih { c with passed := some position } (position + 1) rest

variable {s t : Exchange σ × Option (ModelAndView σ)}

theorem postHandleAll_of_through
    (all : Through (.ok ()) (interceptors.map fun i => i.postHandle request handler) s t) :
    let run := postHandleAll request handler interceptors s
    run.result = .ok () ∧ run.state = t := by
  induction interceptors generalizing s with
  | nil =>
      obtain rfl := through_nil_iff.mp all
      exact ⟨rfl, rfl⟩
  | cons i interceptors ih =>
      obtain ⟨own, rest⟩ := through_cons_iff.mp all
      simp only [postHandleAll, Activity.bind_apply, Run.result_bind, Run.state_bind, own]
      exact ih rest

/-- The first hook that fails decides. -/
theorem postHandleAll_of_hasTurn
    {hook : Activity (Exchange σ × Option (ModelAndView σ)) (Except Failure Unit)}
    (turn : HasTurn (.ok ()) (interceptors.map fun i => i.postHandle request handler) s hook t)
    (stop : (hook t).result ≠ .ok ()) :
    (postHandleAll request handler interceptors s).result = (hook t).result := by
  induction interceptors generalizing s with
  | nil => exact absurd turn not_hasTurn_nil
  | cons i interceptors ih =>
      obtain ⟨rfl, rfl⟩ | ⟨own, rest⟩ := hasTurn_cons_iff.mp turn
      · simp only [postHandleAll, Activity.bind_apply, Run.result_bind]
        match answer : (i.postHandle request handler t).result with
        | .error failure => rfl
        | .ok () => exact absurd answer stop
      · simp only [postHandleAll, Activity.bind_apply, Run.result_bind, own]
        exact ih rest

end Chain

/-! ## Runs of requests -/

namespace Dispatcher

variable {d : Dispatcher σ} {request : Request} {x : Exchange σ} {agenda : Agenda σ}

theorem agenda_eq_error_iff {e : PatternError} :
    d.agenda request = .error e ↔ d.registry.select (d.pathOf request) = .error e := by
  rw [Dispatcher.agenda]
  cases d.registry.select (d.pathOf request) with
  | error e => simp [Except.map]
  | ok entries => simp [Except.map]

theorem agenda_eq_ok_iff : d.agenda request = .ok agenda ↔
    ∃ entries, d.registry.select (d.pathOf request) = .ok entries ∧
      .ofList (entries.map fun entry => entry.1.interceptor) request d.handlerRef = agenda := by
  rw [Dispatcher.agenda]
  cases d.registry.select (d.pathOf request) with
  | error e => simp [Except.map]
  | ok entries => simp [Except.map]

theorem dispatch_of_agenda_error {e : PatternError} (h : d.agenda request = .error e) :
    (d.dispatch request x).result = .error (.pattern e) := by
  simp only [dispatch, Registry.chainFor_of_select_error (agenda_eq_error_iff.mp h)]
  rfl

/-- What is done when a request is complete has no part in how it ends. -/
theorem dispatchWith_result (chain : Chain σ) (path : String) :
    (d.dispatchWith chain request path x).result =
      (d.handle chain request
        (x.report (dispatching request path chain.interceptors.length))).result.1 := by
  simp only [dispatchWith, report, Activity.change, Activity.bind_apply, Run.result_bind,
    Run.bind_done]
  cases (d.handle chain request _).result.1 <;> rfl

theorem dispatch_result {entries : List (Mapping σ × Nat)}
    (h : d.registry.select (d.pathOf request) = .ok entries) :
    (d.dispatch request x).result =
      (d.handle (.ofList (entries.map fun entry => entry.1.interceptor)) request
        (d.opened request entries.length x)).result.1 := by
  have chosen : d.registry.chainFor (d.pathOf request) =
      .ok (.ofList (entries.map fun entry => entry.1.interceptor),
        d.registry.selected (d.pathOf request) entries.length) := by
    simp only [Registry.chainFor, Registry.matching, h]
    rfl
  simp only [dispatch, chosen, report, Activity.change, Activity.bind_apply, Run.bind_done]
  rw [dispatchWith_result, Chain.ofList, List.length_map]
  rfl

variable {interceptors : List (Interceptor σ)} {on : Exchange σ}

/-- The first hook that does not let the request go on ends it, and a refusal without an error. -/
theorem handle_of_hasTurn {hook : Activity (Exchange σ) (Except Failure Bool)}
    (turn : HasTurn (.ok true) (Agenda.ofList interceptors request d.handlerRef).before x hook on)
    (stop : (hook on).result ≠ .ok true) :
    (d.handle (.ofList interceptors) request x).result.1 =
      ((hook on).result.map fun _ => ()).mapError .interceptor := by
  have begun : ((Chain.ofList interceptors).preHandle request d.handlerRef x).result.1 =
      (hook on).result := Chain.preHandleFrom_of_hasTurn _ _ turn stop
  rcases outcome : ((Chain.ofList interceptors).preHandle request d.handlerRef x).result with
    ⟨answer, chain⟩
  rw [outcome] at begun
  rw [← begun] at stop ⊢
  simp only [handle, Activity.bind_apply, Run.result_bind, outcome]
  match answer with
  | .error failure => rfl
  | .ok false => rfl
  | .ok true => exact absurd rfl stop

/-- How a request ends after a run of the hooks that follow the handler. -/
def endAfter (d : Dispatcher σ) (request : Request)
    (run : Run (Exchange σ × Option (ModelAndView σ)) (Except Failure Unit)) :
    Except DispatchError Unit :=
  match run.result with
  | .error failure => .error (.interceptor failure)
  | .ok () => (d.renderAnswer run.state.2 request run.state.1).result

theorem handle_of_through
    (all : Through (.ok true) (Agenda.ofList interceptors request d.handlerRef).before x on) :
    (d.handle (.ofList interceptors) request x).result.1 =
      match (d.handler request on).result with
      | .error failure => .error (.handler failure)
      | .ok mav => d.endAfter request (Chain.postHandleAll request d.handlerRef interceptors.reverse
          ((d.handler request on).state, mav)) := by
  obtain ⟨begun, reached⟩ := Chain.preHandle_of_through all
  simp only [handle, Activity.bind_apply, Run.result_bind, begun, reached]
  cases (d.handler request on).result with
  | error failure => rfl
  | ok mav =>
      simp only [Activity.bind_apply, Activity.withPart, Run.result_bind, Run.result_withPart,
        Run.state_withPart, Chain.postHandle, Chain.between, List.append_nil, endAfter]
      cases (Chain.postHandleAll request d.handlerRef interceptors.reverse
        ((d.handler request on).state, mav)).result with
      | error failure => rfl
      | ok =>
          simp only [Activity.bind_apply, Run.result_bind]
          rfl

theorem before_ofList_length (interceptors : List (Interceptor σ)) (request : Request)
    (handler : HandlerRef) :
    (Agenda.ofList interceptors request handler).before.length = interceptors.length :=
  List.length_map _

theorem dispatch_of_before {hook : Activity (Exchange σ) (Except Failure Bool)}
    (planned : d.agenda request = .ok agenda)
    (turn : HasTurn (.ok true) agenda.before (d.opened request agenda.before.length x) hook on)
    (stop : (hook on).result ≠ .ok true) :
    (d.dispatch request x).result = ((hook on).result.map fun _ => ()).mapError .interceptor := by
  obtain ⟨entries, selected, rfl⟩ := agenda_eq_ok_iff.mp planned
  rw [before_ofList_length, List.length_map] at turn
  rw [dispatch_result selected]
  exact handle_of_hasTurn turn stop

theorem dispatch_of_unanswered {failure : Failure} (proceeds : d.Proceeds request x agenda on)
    (failed : (d.handler request on).result = .error failure) :
    (d.dispatch request x).result = .error (.handler failure) := by
  obtain ⟨planned, all⟩ := proceeds
  obtain ⟨entries, selected, rfl⟩ := agenda_eq_ok_iff.mp planned
  rw [before_ofList_length, List.length_map] at all
  rw [dispatch_result selected, handle_of_through all, failed]

variable {s t : Exchange σ × Option (ModelAndView σ)}

/-- What follows the handler. -/
theorem dispatch_of_answers (answers : d.Answers request x agenda s) :
    ∃ interceptors, agenda.after = interceptors.map (fun i => i.postHandle request d.handlerRef) ∧
      (d.dispatch request x).result =
        d.endAfter request (Chain.postHandleAll request d.handlerRef interceptors s) := by
  obtain ⟨on, ⟨planned, all⟩, answered, state⟩ := answers
  obtain ⟨entries, selected, rfl⟩ := agenda_eq_ok_iff.mp planned
  rw [before_ofList_length, List.length_map] at all
  refine ⟨_, rfl, ?_⟩
  rw [dispatch_result selected, handle_of_through all, answered, state]

theorem dispatch_of_after
    {hook : Activity (Exchange σ × Option (ModelAndView σ)) (Except Failure Unit)}
    (answers : d.Answers request x agenda s) (turn : HasTurn (.ok ()) agenda.after s hook t)
    (stop : (hook t).result ≠ .ok ()) :
    (d.dispatch request x).result = (hook t).result.mapError .interceptor := by
  obtain ⟨interceptors, own, result⟩ := dispatch_of_answers answers
  rw [own] at turn
  rw [result, endAfter, Chain.postHandleAll_of_hasTurn turn stop]
  match answer : (hook t).result with
  | .error failure => rfl
  | .ok () => exact absurd answer stop

theorem dispatch_of_leaves (leaves : d.Leaves request x s) :
    (d.dispatch request x).result = (d.renderAnswer s.2 request s.1).result := by
  obtain ⟨agenda, s₀, answers, all⟩ := leaves
  obtain ⟨interceptors, own, result⟩ := dispatch_of_answers answers
  rw [own] at all
  obtain ⟨fine, state⟩ := Chain.postHandleAll_of_through all
  rw [result, endAfter, fine, state]

/-! ## Views -/

variable {m : ModelAndView σ} {ref : ViewRef σ}

theorem renderAnswer_of_no_view {mav : Option (ModelAndView σ)}
    (missing : ∀ m, mav = some m → m.view = none) :
    d.renderAnswer mav request on = .done (.ok ()) on := by
  unfold renderAnswer
  cases mav with
  | none => rfl
  | some m =>
      have own := missing m rfl
      cases cleared : m.wasCleared with
      | true => simp [Option.filter_some, cleared, Activity.pure_apply]
      | false => simp [Option.filter_some, cleared, Activity.step, render, own]

/-- What has a view does not count as cleared. -/
theorem renderAnswer_of_view (chosen : m.view = some ref) :
    d.renderAnswer (some m) request on =
      .done (d.render m request on).1 (d.render m request on).2 := by
  have kept : m.wasCleared = false := by
    simp [ModelAndView.wasCleared, ModelAndView.isEmpty, chosen]
  simp [renderAnswer, Option.filter_some, kept, Activity.step]

theorem render_of_unresolved {e : DispatchError} (chosen : m.view = some ref)
    (missing : d.resolve ref = .error e) : d.render m request on = (.error e, on) := by
  simp only [render, chosen, missing]

theorem resolve_named_eq_error_iff {name : String} {e : DispatchError} :
    d.resolve (.named name) = .error e ↔
      d.resolver.bind (fun resolver => resolver name) = none ∧ e = .unresolvedView name := by
  rw [resolve]
  cases d.resolver.bind fun resolver => resolver name with
  | none => simp [eq_comm]
  | some view => simp

/-! ## Failures -/

variable {e : DispatchError}

theorem exists_raises_of_view (leaves : d.Leaves request x (on, some m))
    (chosen : m.view = some ref) (h : (d.dispatch request x).result = .error e) :
    ∃ step texts, Reaches d request x step ∧ Raises d request step e texts := by
  rw [dispatch_of_leaves leaves, renderAnswer_of_view chosen, Run.result_done] at h
  cases found : d.resolve ref with
  | error e' =>
      rw [render_of_unresolved chosen found] at h
      cases h
      obtain ⟨name, rfl, rfl⟩ := eq_unresolvedView_of_resolve found
      obtain ⟨missing, _⟩ := resolve_named_eq_error_iff.mp found
      exact ⟨_, _, .resolution leaves chosen, .resolution missing⟩
  | ok view =>
      rw [render_of_resolve chosen found] at h
      cases failed : (view.render (some m.model) request (readyFor m on)).1 with
      | error e' =>
          rw [failed] at h
          cases h
          exact ⟨_, _, .rendering leaves chosen found, .rendering failed⟩
      | ok =>
          rw [failed] at h
          cases h

theorem exists_raises_of_leaves (leaves : d.Leaves request x s)
    (h : (d.dispatch request x).result = .error e) :
    ∃ step texts, Reaches d request x step ∧ Raises d request step e texts := by
  obtain ⟨on, mav⟩ := s
  by_cases missing : ∀ m, mav = some m → m.view = none
  · rw [dispatch_of_leaves leaves, renderAnswer_of_no_view missing] at h
    cases h
  · obtain ⟨m, own⟩ := not_forall.mp missing
    obtain ⟨rfl, ne⟩ := Classical.not_imp.mp own
    obtain ⟨ref, chosen⟩ := Option.ne_none_iff_exists'.mp ne
    exact exists_raises_of_view leaves chosen h

theorem exists_raises_of_proceeds (proceeds : d.Proceeds request x agenda on)
    (h : (d.dispatch request x).result = .error e) :
    ∃ step texts, Reaches d request x step ∧ Raises d request step e texts := by
  cases answer : (d.handler request on).result with
  | error failure =>
      rw [dispatch_of_unanswered proceeds answer] at h
      cases h
      exact ⟨_, _, .handling proceeds, .handling answer⟩
  | ok mav =>
      have answers : d.Answers request x agenda ((d.handler request on).state, mav) :=
        ⟨on, proceeds, answer, rfl⟩
      obtain ⟨t, all⟩ | ⟨hook, t, turn, stop⟩ := through_or_hasTurn (.ok ()) agenda.after _
      · exact exists_raises_of_leaves ⟨agenda, _, answers, all⟩ h
      · rw [dispatch_of_after answers turn stop] at h
        cases failed : (hook t).result with
        | error failure =>
            rw [failed] at h
            cases h
            exact ⟨_, _, .after answers turn, .after failed⟩
        | ok => exact absurd failed stop

/-- A request that fails has reached a step that raises the error. -/
theorem exists_raises (h : (d.dispatch request x).result = .error e) :
    ∃ step texts, Reaches d request x step ∧ Raises d request step e texts := by
  cases planned : d.agenda request with
  | error e' =>
      rw [dispatch_of_agenda_error planned] at h
      cases h
      exact ⟨_, _, .selection, .selection planned⟩
  | ok agenda =>
      obtain ⟨on, all⟩ | ⟨hook, on, turn, stop⟩ :=
        through_or_hasTurn (.ok true) agenda.before (d.opened request agenda.before.length x)
      · exact exists_raises_of_proceeds ⟨planned, all⟩ h
      · rw [dispatch_of_before planned turn stop] at h
        cases failed : (hook on).result with
        | error failure =>
            rw [failed] at h
            cases h
            exact ⟨_, _, .before planned turn, .before failed⟩
        | ok proceed =>
            rw [failed] at h
            cases h

/-- A step that a request reaches ends it with the error that it raises. -/
theorem dispatch_of_raises {step : Step σ} {texts : List String}
    (reached : Reaches d request x step) (raised : Raises d request step e texts) :
    (d.dispatch request x).result = .error e := by
  cases reached with
  | selection =>
      obtain ⟨failed⟩ := raised
      exact dispatch_of_agenda_error failed
  | before planned turn =>
      obtain _ | ⟨failed⟩ := raised
      rw [dispatch_of_before planned turn (by simp [failed]), failed]
      rfl
  | handling proceeds =>
      obtain _ | _ | ⟨failed⟩ := raised
      exact dispatch_of_unanswered proceeds failed
  | after answers turn =>
      obtain _ | _ | _ | ⟨failed⟩ := raised
      rw [dispatch_of_after answers turn (by simp [failed]), failed]
      rfl
  | resolution leaves chosen =>
      obtain _ | _ | _ | _ | ⟨missing⟩ := raised
      have unknown := resolve_named_eq_error_iff.mpr ⟨missing, rfl⟩
      rw [dispatch_of_leaves leaves, renderAnswer_of_view chosen,
        render_of_unresolved chosen unknown, Run.result_done]
  | rendering leaves chosen found =>
      obtain _ | _ | _ | _ | _ | ⟨failed⟩ := raised
      rw [dispatch_of_leaves leaves, renderAnswer_of_view chosen, render_of_resolve chosen found,
        failed]
      rfl

/-- A refusal ends a request without an error. -/
theorem dispatch_of_refusal {hook : Activity (Exchange σ) (Except Failure Bool)}
    (reached : Reaches d request x (.before hook on)) (refused : (hook on).result = .ok false) :
    (d.dispatch request x).result = .ok () := by
  obtain _ | ⟨planned, turn⟩ := reached
  rw [dispatch_of_before planned turn (by simp [refused]), refused]
  rfl

end Dispatcher

end Interception
