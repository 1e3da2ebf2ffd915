import Interception.Ant.Matcher
import Interception.Proofs.Selection

/-!
# The calls of a request

The log of a request is cut into phases: the calls before the handler, the handler, the calls after
it, the rendering, and at last the completion. What a phase may hold depends on how the phases
before it went, and on nothing else about interceptors, handler and views.
-/

namespace Interception

variable {σ : Type}

/-! ## Rendering -/

namespace Dispatcher

variable (d : Dispatcher σ)

/-- A call of the handler. -/
def IsHandle (request : Request) (call : Call σ) : Prop :=
  ∃ x, call = .handle request x (d.handler request x).result

/-- What can come of a request, for the calls before its completion: the first error among them,
and without one a view that is not found, or nothing. -/
def IsOutcome (calls : List (Call σ)) (result : Except DispatchError Unit) : Prop :=
  match firstError calls with
  | some e => result = .error e
  | none => result = .ok () ∨ ∃ name, d.resolve (.named name) = .error (.unresolvedView name) ∧
      result = .error (.unresolvedView name)

variable {d} {calls : List (Call σ)} {result : Except DispatchError Unit}

theorem isOutcome_of_firstError {e : DispatchError} (h : firstError calls = some e) :
    d.IsOutcome calls (.error e) := by
  rw [IsOutcome, h]

/-- Calls without an error do not decide what comes of a request. -/
theorem IsOutcome.append_left (h : d.IsOutcome calls result) {first : List (Call σ)}
    (fine : firstError first = none) : d.IsOutcome (first ++ calls) result := by
  rwa [IsOutcome, firstError_append, fine, Option.none_or]

theorem isOutcome_ok (fine : firstError calls = none) : d.IsOutcome calls (.ok ()) := by
  rw [IsOutcome, fine]
  exact .inl rfl

theorem resolve_observed (ref : ViewRef σ) :
    d.observed.resolve (ref.map View.observed) = (d.resolve ref).map View.observed := by
  cases ref with
  | resolved view => rfl
  | named name =>
      obtain ⟨registry, handler, handlerRef, resolver, lookup⟩ := d
      cases resolver with
      | none => rfl
      | some resolver =>
          simp only [resolve, observed, ViewRef.map, Option.map_some, Option.bind_some]
          cases resolver name <;> rfl

theorem eq_unresolvedView_of_resolve {ref : ViewRef σ} {e : DispatchError}
    (h : d.resolve ref = .error e) : ∃ name, ref = .named name ∧ e = .unresolvedView name := by
  cases ref with
  | resolved view => cases h
  | named name =>
      refine ⟨name, rfl, ?_⟩
      rw [resolve] at h
      split at h
      · cases h
      · exact (Except.error.inj h).symm

/-- The exchange that a view is rendered to. -/
def readyFor (m : ModelAndView σ) (x : Exchange σ) : Exchange σ :=
  match m.status with
  | some status => x.setStatus status
  | none => x

theorem readyFor_eq (m : ModelAndView σ) (x : Exchange σ) :
    readyFor m x =
      { x with response := { x.response with status := m.status.getD x.response.status } } := by
  obtain ⟨_, _, _ | _, _⟩ := m
  all_goals rfl

theorem readyFor_observed (m : ModelAndView σ) (x : Exchange σ) (log : List (Call σ)) :
    readyFor m.observed (x.logged log) = (readyFor m x).logged log := by
  obtain ⟨view, model, _ | status, cleared⟩ := m <;> rfl

theorem render_of_resolve {m : ModelAndView σ} {ref : ViewRef σ} {view : View σ}
    (chosen : m.view = some ref) (found : d.resolve ref = .ok view) (request : Request)
    (x : Exchange σ) :
    d.render m request x =
      ((view.render (some m.model) request (readyFor m x)).1.mapError .render,
        (view.render (some m.model) request (readyFor m x)).2) := by
  cases own : m.status with
  | none =>
      simp only [render, readyFor, chosen, found, own]
      rcases view.render (some m.model) request x with ⟨_ | ⟨⟩, y⟩ <;> rfl
  | some status =>
      simp only [render, readyFor, chosen, found, own]
      rcases view.render (some m.model) request (x.setStatus status) with ⟨_ | ⟨⟩, y⟩ <;> rfl

end Dispatcher

/-- A call of a view with a model. -/
def Call.IsRender (request : Request) (call : Call σ) : Prop :=
  ∃ (view : View σ) (model : Model) (x : Exchange σ),
    call = .render (some model) request x (view.render (some model) request x).1

namespace Observes

variable (d : Dispatcher σ) (request : Request)

/-- The handler is called once. -/
theorem handler :
    Observes .exchange (Except.map (Option.map ModelAndView.observed)) (d.handler request)
      (d.observed.handler request)
      fun calls answer => ∃ x, calls = [.handle request x answer] ∧
        answer = (d.handler request x).result :=
  Observes.mapResult (Observes.call fun x => ⟨x, rfl, rfl⟩) _

/-- A view is rendered unless it is missing or not found. -/
theorem render (m : ModelAndView σ) :
    Observes .exchange id (.step (d.render m request))
      (.step (d.observed.render m.observed request))
      fun calls result => d.IsOutcome calls result ∧
        (calls = [] ∨ ∃ call, calls = [call] ∧ call.IsRender request) := by
  refine Observes.step ?_
  intro x log
  cases chosen : m.view with
  | none =>
      refine ⟨[], ?_, ?_, .inl rfl⟩
      · simp [Dispatcher.render, ModelAndView.observed, ModelAndView.mapView, chosen,
          Observation.exchange]
      · simp [Dispatcher.render, chosen, Dispatcher.IsOutcome]
  | some ref =>
      have chosen' : m.observed.view = some (ref.map View.observed) := by
        simp [ModelAndView.observed, ModelAndView.mapView, chosen]
      have found' := Dispatcher.resolve_observed (d := d) ref
      cases found : d.resolve ref with
      | error e =>
          obtain ⟨name, rfl, rfl⟩ := Dispatcher.eq_unresolvedView_of_resolve found
          rw [found] at found'
          refine ⟨[], ?_, ?_, .inl rfl⟩
          · simp [Dispatcher.render, chosen, chosen', found, found', Observation.exchange,
              Except.map]
          · simp [Dispatcher.render, chosen, found, Dispatcher.IsOutcome]
      | ok view =>
          rw [found] at found'
          have here := Dispatcher.render_of_resolve chosen found request
          have there := Dispatcher.render_of_resolve chosen' found' request (x.logged log)
          rw [Dispatcher.readyFor_observed] at there
          refine ⟨[.render (some m.model) request (Dispatcher.readyFor m x) _], ?_, ?_,
            .inr ⟨_, rfl, view, m.model, _, rfl⟩⟩
          · rw [here]
            exact there
          · rw [here]
            cases (view.render (some m.model) request (Dispatcher.readyFor m x)).1 with
            | ok => exact .inl rfl
            | error e => rfl

/-- At most one view is rendered. -/
theorem renderAnswer (mav : Option (ModelAndView σ)) :
    Observes .exchange id (d.renderAnswer mav request)
      (d.observed.renderAnswer (mav.map ModelAndView.observed) request)
      fun calls result => d.IsOutcome calls result ∧
        (calls = [] ∨ ∃ call, calls = [call] ∧ call.IsRender request) := by
  unfold Dispatcher.renderAnswer
  cases mav with
  | none => exact Observes.pure ⟨.inl rfl, .inl rfl⟩
  | some m =>
      simp only [Option.map_some, Option.filter_some, ModelAndView.observed,
        ModelAndView.wasCleared_mapView]
      cases m.wasCleared with
      | true => exact Observes.pure ⟨.inl rfl, .inl rfl⟩
      | false => exact Observes.render d request m

end Observes

/-! ## Phases -/

/-- The calls of a request before its completion. -/
structure Phases (σ : Type) where
  before : List (Call σ)
  handling : List (Call σ)
  after : List (Call σ)
  rendering : List (Call σ)

namespace Phases

/-- The calls of all phases in order. -/
def steps (phases : Phases σ) : List (Call σ) :=
  phases.before ++ phases.handling ++ phases.after ++ phases.rendering

/-- Whether the handler was called and did not fail. -/
def Answered (phases : Phases σ) : Prop := ∃ call ∈ phases.handling, call.passed = true

/-- What the phases of a request with selected interceptors hold, and what comes of it. -/
structure Lawful (d : Dispatcher σ) (request : Request) (selected : List (Placed σ))
    (phases : Phases σ) (result : Except DispatchError Unit) : Prop where
  /-- In order, up to and including the first that does not let the request go on. -/
  before : InTurn (Placed.IsPreHandle request d.handlerRef) selected phases.before
  handled : passes phases.before = selected.length →
    ∃ call, phases.handling = [call] ∧ d.IsHandle request call
  not_handled : passes phases.before ≠ selected.length → phases.handling = []
  /-- In reverse order, up to and including the first that fails. -/
  after : phases.Answered →
    InTurn (Placed.IsPostHandle request d.handlerRef) selected.reverse phases.after
  not_after : ¬ phases.Answered → phases.after = []
  /-- At most one view is rendered. -/
  rendering : phases.rendering = [] ∨ ∃ call, phases.rendering = [call] ∧ call.IsRender request
  /-- A view is rendered only if the handler and all interceptors after it succeeded. -/
  of_rendering : phases.rendering ≠ [] →
    phases.Answered ∧ passes phases.after = selected.length
  outcome : d.IsOutcome phases.steps result

namespace Lawful

variable {d : Dispatcher σ} {request : Request} {selected : List (Placed σ)}
variable {before after rendering : List (Call σ)} {call : Call σ}
variable {result : Except DispatchError Unit}

/-- Nothing follows when an interceptor did not let the request go on. -/
theorem stopped (inTurn : InTurn (Placed.IsPreHandle request d.handlerRef) selected before)
    (some : passes before < selected.length) (outcome : d.IsOutcome before result) :
    Lawful d request selected ⟨before, [], [], []⟩ result where
  before := inTurn
  handled all := absurd all (Nat.ne_of_lt some)
  not_handled _ := rfl
  after := by
    rintro ⟨call, mem, _⟩
    cases mem
  not_after _ := rfl
  rendering := .inl rfl
  of_rendering h := absurd rfl h
  outcome := by simpa [steps] using outcome

/-- Nothing follows when the handler failed. -/
theorem unanswered (inTurn : InTurn (Placed.IsPreHandle request d.handlerRef) selected before)
    (all : passes before = selected.length) (own : d.IsHandle request call)
    (stop : call.passed = false) (outcome : d.IsOutcome (before ++ [call]) result) :
    Lawful d request selected ⟨before, [call], [], []⟩ result where
  before := inTurn
  handled _ := ⟨call, rfl, own⟩
  not_handled h := absurd all h
  after := by
    rintro ⟨other, mem, pass⟩
    obtain rfl := List.mem_singleton.mp mem
    rw [stop] at pass
    cases pass
  not_after _ := rfl
  rendering := .inl rfl
  of_rendering h := absurd rfl h
  outcome := by simpa [steps] using outcome

/-- When the handler has answered, interceptors and a view may follow. -/
theorem answered (inTurn : InTurn (Placed.IsPreHandle request d.handlerRef) selected before)
    (all : passes before = selected.length) (own : d.IsHandle request call)
    (pass : call.passed = true)
    (turns : InTurn (Placed.IsPostHandle request d.handlerRef) selected.reverse after)
    (views : rendering = [] ∨ passes after = selected.length ∧
      ∃ call, rendering = [call] ∧ call.IsRender request)
    (outcome : d.IsOutcome (before ++ [call] ++ after ++ rendering) result) :
    Lawful d request selected ⟨before, [call], after, rendering⟩ result where
  before := inTurn
  handled _ := ⟨call, rfl, own⟩
  not_handled h := absurd all h
  after _ := turns
  not_after h := absurd ⟨call, List.mem_singleton_self call, pass⟩ h
  rendering := views.imp_right And.right
  of_rendering h := by
    obtain none | ⟨count, _⟩ := views
    · exact absurd none h
    · exact ⟨⟨call, List.mem_singleton_self call, pass⟩, count⟩
  outcome := outcome

variable {phases : Phases σ}

theorem of_mem_handling (h : Lawful d request selected phases result)
    (mem : call ∈ phases.handling) : d.IsHandle request call := by
  by_cases all : passes phases.before = selected.length
  · obtain ⟨own, only, made⟩ := h.handled all
    rw [only, List.mem_singleton] at mem
    rwa [mem]
  · rw [h.not_handled all] at mem
    cases mem

theorem of_mem_after (h : Lawful d request selected phases result) (mem : call ∈ phases.after) :
    ∃ p ∈ selected, p.IsPostHandle request d.handlerRef call := by
  by_cases answered : phases.Answered
  · obtain ⟨p, hp, made⟩ := (h.after answered).exists_of_mem mem
    exact ⟨p, List.mem_reverse.mp hp, made⟩
  · rw [h.not_after answered] at mem
    cases mem

theorem of_mem_rendering (h : Lawful d request selected phases result)
    (mem : call ∈ phases.rendering) : call.IsRender request := by
  obtain none | ⟨own, only, made⟩ := h.rendering
  · rw [none] at mem
    cases mem
  · rw [only, List.mem_singleton] at mem
    rwa [mem]

end Lawful

end Phases

/-- How the steps before the completion end: the completion that follows a refusal is done already,
and otherwise the chain remembers how many interceptors are to be completed. -/
inductive Handled (d : Dispatcher σ) (request : Request) (selected : List (Placed σ)) :
    List (Call σ) → Except DispatchError Unit × Chain σ → Prop where
  | ended {phases : Phases σ} {result : Except DispatchError Unit}
      (lawful : phases.Lawful d request selected result) :
      Handled d request selected phases.steps
        (result, Chain.after selected (passes phases.before))
  | refused {phases : Phases σ} {completion : List (Call σ)}
      (lawful : phases.Lawful d request selected (.ok ()))
      (completed : List.Forall₂ (Placed.IsAfterCompletion request d.handlerRef none)
        (selected.take (passes phases.before)).reverse completion) :
      Handled d request selected (phases.steps ++ completion) (.ok (), Chain.after selected 0)

namespace Observes

variable (d : Dispatcher σ) (request : Request)

/-- From the first interceptor to the view, wherever the request ends. -/
theorem handle (selected : List (Placed σ)) :
    Observes .exchange (Prod.map id (Chain.observedAs selected))
      (d.handle (Chain.after selected 0) request)
      (d.observed.handle ((Chain.after selected 0).observedAs selected) request)
      (Handled d request selected) := by
  unfold Dispatcher.handle
  refine Observes.bind (Observes.preHandleFrom request d.handlerRef selected selected 0) ?_
  rintro outcome calls began
  cases began with
  | failed inTurn some found =>
      refine Observes.pure ?_
      have lawful := Phases.Lawful.stopped inTurn some (Dispatcher.isOutcome_of_firstError found)
      simpa [Phases.steps] using Handled.ended lawful
  | refused inTurn some fine completed =>
      refine Observes.pure ?_
      have lawful := Phases.Lawful.stopped inTurn some (Dispatcher.isOutcome_ok fine)
      rw [Nat.zero_add] at completed
      simpa [Phases.steps] using Handled.refused lawful completed
  | passed inTurn all fine =>
      refine Observes.bind (Observes.handler d request) ?_
      rintro answer _ ⟨x, rfl, own⟩
      have made : d.IsHandle request (.handle request x answer) := by
        rw [own]
        exact ⟨x, rfl⟩
      cases answer with
      | error failure =>
          refine Observes.pure ?_
          have outcome : d.IsOutcome (calls ++ [.handle request x (.error failure)])
              (.error (.handler failure)) :=
            (Dispatcher.isOutcome_of_firstError rfl).append_left fine
          have lawful := Phases.Lawful.unanswered inTurn all made rfl outcome
          simpa [Phases.steps] using Handled.ended lawful
      | ok mav =>
          have fine' : firstError (calls ++ [.handle request x (.ok mav)]) = none := by
            rw [firstError_append, fine]
            rfl
          have posted := Observes.postHandleChain request d.handlerRef selected (0 + passes calls)
          refine Observes.bind (posted.withPart mav) ?_
          rintro ⟨answer, left⟩ after ⟨turns, ending⟩
          match answer, ending with
          | .error failure, found =>
              refine Observes.pure ?_
              have outcome : d.IsOutcome (calls ++ [.handle request x (.ok mav)] ++ after)
                  (.error (.interceptor failure)) :=
                (Dispatcher.isOutcome_of_firstError found).append_left fine'
              rw [← List.append_nil (_ ++ after)] at outcome
              have lawful := Phases.Lawful.answered inTurn all made rfl turns (.inl rfl) outcome
              simpa [Phases.steps] using Handled.ended lawful
          | .ok (), ⟨count, fine''⟩ =>
              refine Observes.bind (Observes.renderAnswer d request left) ?_
              rintro result rendering ⟨outcome, views⟩
              refine Observes.pure ?_
              have lawful := Phases.Lawful.answered inTurn all made rfl turns
                (views.imp_right fun h => ⟨count, h⟩)
                (outcome.append_left (by rw [firstError_append, fine', fine'']; rfl))
              simpa [Phases.steps] using Handled.ended lawful

end Observes

/-! ## Requests -/

/-- The calls of a request with selected interceptors: its phases, and then the completion of the
interceptors that let it go on, in reverse order and with the error that the request ends with. -/
def IsLifecycle (d : Dispatcher σ) (request : Request) (selected : List (Placed σ))
    (calls : List (Call σ)) (result : Except DispatchError Unit) : Prop :=
  ∃ (phases : Phases σ) (completion : List (Call σ)),
    calls = phases.steps ++ completion ∧
    phases.Lawful d request selected result ∧
    List.Forall₂ (Placed.IsAfterCompletion request d.handlerRef
        ((Dispatcher.errorOf result).map DispatchError.toFailure))
      (selected.take (passes phases.before)).reverse completion

section Lifecycle

variable {d : Dispatcher σ} {request : Request} {selected : List (Placed σ)}
variable {calls : List (Call σ)} {result : Except DispatchError Unit}

/-- No interceptor is called that was not selected. -/
theorem IsLifecycle.mem_positions (h : IsLifecycle d request selected calls result)
    {call : Call σ} (mem : call ∈ calls) {position : Nat}
    (own : call.position? = some position) : position ∈ selected.map Prod.snd := by
  have placed : ∀ p ∈ selected, call.position? = some p.2 → position ∈ selected.map Prod.snd := by
    intro p hp eq
    rw [own, Option.some.injEq] at eq
    exact List.mem_map.mpr ⟨p, hp, eq.symm⟩
  obtain ⟨phases, completion, rfl, lawful, completed⟩ := h
  simp only [Phases.steps, List.mem_append] at mem
  obtain (((mem | mem) | mem) | mem) | mem := mem
  · obtain ⟨p, hp, made⟩ := lawful.before.exists_of_mem mem
    exact placed p hp made.position
  · obtain ⟨x, rfl⟩ := lawful.of_mem_handling mem
    cases own
  · obtain ⟨p, hp, made⟩ := lawful.of_mem_after mem
    exact placed p hp made.position
  · obtain ⟨view, model, x, rfl⟩ := lawful.of_mem_rendering mem
    cases own
  · obtain ⟨p, hp, made⟩ := exists_of_mem_forall₂ completed mem
    exact placed p (List.mem_of_mem_take (List.mem_reverse.mp hp)) made.position

/-- Whatever the chain remembers, the completion at the end makes the lifecycle full. -/
theorem Handled.exists_completes {chain : Chain σ}
    (h : Handled d request selected calls (result, chain)) :
    ∃ count, chain = Chain.after selected count ∧ ∀ completion,
      List.Forall₂ (Placed.IsAfterCompletion request d.handlerRef
          ((Dispatcher.errorOf result).map DispatchError.toFailure))
        (selected.take count).reverse completion →
      IsLifecycle d request selected (calls ++ completion) result := by
  cases h with
  | @ended phases result lawful =>
      exact ⟨_, rfl, fun completion completed => ⟨phases, completion, rfl, lawful, completed⟩⟩
  | @refused phases first lawful completed =>
      refine ⟨0, rfl, ?_⟩
      rintro _ ⟨⟩
      exact ⟨phases, first, List.append_nil _, lawful, completed⟩

end Lifecycle

namespace Observes

variable (d : Dispatcher σ) (request : Request)

/-- The completion at the end finds all interceptors that let the request go on, or none if a
refusal has completed them. -/
theorem dispatchWith (selected : List (Placed σ)) (path : String) :
    Observes .exchange id (d.dispatchWith (Chain.after selected 0) request path)
      (d.observed.dispatchWith ((Chain.after selected 0).observedAs selected) request path)
      (IsLifecycle d request selected) := by
  have length : ((Chain.after selected 0).observedAs selected).interceptors.length =
      (Chain.after selected 0).interceptors.length := by
    simp [Chain.observedAs, Chain.after]
  unfold Dispatcher.dispatchWith
  rw [length]
  refine Observes.bind (Observes.report _) ?_
  rintro _ _ rfl
  refine Observes.bind (Observes.handle d request selected) ?_
  rintro ⟨result, chain⟩ calls handled
  obtain ⟨count, rfl, completes⟩ := handled.exists_completes
  refine Observes.bind (Observes.complete request d.handlerRef _ selected count) ?_
  rintro _ completion ⟨rfl, completed⟩
  have lifecycle := completes completion completed
  cases result with
  | ok =>
      refine Observes.pure ?_
      simpa using lifecycle
  | error e =>
      refine Observes.bind (Observes.report _) ?_
      rintro _ _ rfl
      refine Observes.pure ?_
      simpa using lifecycle

/-- Under observation a request is dispatched to the same interceptors. -/
theorem dispatch {entries : List (Mapping σ × Nat)}
    (h : d.registry.select (d.pathOf request) = .ok entries) :
    Observes .exchange id (d.dispatch request) (d.observed.dispatch request)
      (IsLifecycle d request (entries.map Placed.ofEntry)) := by
  have path : d.observed.pathOf request = d.pathOf request := rfl
  have chosen := Registry.chainFor_of_select h
  have chosen' := Registry.chainFor_observed_of_select h
  have registry : d.observed.registry = d.registry.observed := rfl
  simp only [Dispatcher.dispatch, path, registry, chosen, chosen']
  refine Observes.bind (Observes.report _) ?_
  rintro _ _ rfl
  exact Observes.dispatchWith d request _ _

/-- Nothing is called when the selection fails. -/
theorem dispatch_of_select_error {e : PatternError}
    (h : d.registry.select (d.pathOf request) = .error e) :
    Observes .exchange id (d.dispatch request) (d.observed.dispatch request)
      fun calls result => calls = [] ∧ result = .error (.pattern e) := by
  have path : d.observed.pathOf request = d.pathOf request := rfl
  have chosen := Registry.chainFor_of_select_error h
  have chosen' := Registry.chainFor_observed_of_select_error h
  have registry : d.observed.registry = d.registry.observed := rfl
  simp only [Dispatcher.dispatch, path, registry, chosen, chosen']
  exact Observes.pure ⟨rfl, rfl⟩

end Observes

namespace Dispatcher

/-- The calls that are made when a request is dispatched. -/
def log (d : Dispatcher σ) (request : Request) (x : Exchange σ) : List (Call σ) :=
  (d.observed.dispatch request (x.logged [])).state.calls

variable {d : Dispatcher σ} {request : Request}

theorem log_of_select {entries : List (Mapping σ × Nat)}
    (h : d.registry.select (d.pathOf request) = .ok entries) (x : Exchange σ) :
    IsLifecycle d request (entries.map Placed.ofEntry) (d.log request x)
      (d.dispatch request x).result :=
  ((Observes.dispatch d request h).run x).2

theorem log_of_select_error {e : PatternError}
    (h : d.registry.select (d.pathOf request) = .error e) (x : Exchange σ) :
    d.log request x = [] :=
  ((Observes.dispatch_of_select_error d request h).run x).2.1

/-- A request that is dispatched under observation takes the same course as without it. -/
theorem dispatch_observed (d : Dispatcher σ) (request : Request) (x : Exchange σ) :
    (d.observed.dispatch request (x.logged [])).mapState Exchange.bare = d.dispatch request x := by
  cases selected : d.registry.select (d.pathOf request) with
  | error e => exact ((Observes.dispatch_of_select_error d request selected).run x).1
  | ok entries => exact ((Observes.dispatch d request selected).run x).1

/-- A request that is dispatched under observation takes the same course, and the calls that are
made are the lifecycle of the interceptors selected for it. They are different ones, in the order of
the registry, and no others are called. -/
theorem dispatch_lifecycle (d : Dispatcher σ) (request : Request) (x : Exchange σ)
    {entries : List (Mapping σ × Nat)}
    (h : d.registry.select (d.pathOf request) = .ok entries) :
    (d.observed.dispatch request (x.logged [])).mapState Exchange.bare = d.dispatch request x ∧
      IsLifecycle d request (entries.map Placed.ofEntry) (d.log request x)
        (d.dispatch request x).result ∧
      entries.Pairwise (fun a b => a.2 < b.2) ∧
      ∀ call ∈ d.log request x, ∀ position, call.position? = some position →
        position ∈ entries.map Prod.snd := by
  have lifecycle := log_of_select h x
  refine ⟨dispatch_observed d request x, lifecycle, Registry.pairwise_select h, ?_⟩
  intro call mem position own
  have selected := lifecycle.mem_positions mem own
  rwa [Placed.positions_ofEntry] at selected

/-- A dispatcher whose second interceptor refuses every request. -/
def refusing : Dispatcher Unit where
  registry := ⟨[.everywhere .passThrough, .everywhere .refusing],
    AntMatcher.default.toPathMatcher⟩
  handler _ := pure (.ok none)
  handlerRef := ⟨none⟩
  resolver := none
  lookup := .default

theorem dispatch_lifecycle_of_refusal :
    refusing.registry.select (refusing.pathOf ⟨"GET", "/", ∅⟩) =
        .ok [(.everywhere .passThrough, 0), (.everywhere .refusing, 1)] ∧
      IsLifecycle refusing ⟨"GET", "/", ∅⟩ [(.passThrough, 0), (.refusing, 1)]
        (refusing.log ⟨"GET", "/", ∅⟩ (.start ())) (.ok ()) := by
  have selected : refusing.registry.select (refusing.pathOf ⟨"GET", "/", ∅⟩) =
      .ok [(.everywhere .passThrough, 0), (.everywhere .refusing, 1)] := rfl
  exact ⟨selected, (dispatch_lifecycle refusing ⟨"GET", "/", ∅⟩ (.start ()) selected).2.1⟩

end Dispatcher

end Interception
