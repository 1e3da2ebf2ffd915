import Interception.Dispatcher
import Interception.Proofs.Run

/-!
# Requests under observation

A dispatcher under observation does what it does without it, and keeps a log of the calls that are
made to its interceptors, its handler and its views. The log is a part of the world that none of
these can see: each is called on the exchange without the log, and the call is entered when it has
ended.

`Observes` ties an activity under observation to the activity itself. Pauses, result and exchange
are the same, and what is appended to the log satisfies a condition. Its rules follow the shape of
activities, so that the log of a whole request is found from those of its steps.
-/

namespace Interception

/-- A call that is made in the course of a request: what it was made on, and what came of it.
Interceptors go by their position in the registry. -/
inductive Call (σ : Type) where
  | preHandle (position : Nat) (request : Request) (on : Exchange σ)
      (result : Except Failure Bool)
  | handle (request : Request) (on : Exchange σ)
      (result : Except Failure (Option (ModelAndView σ)))
  | postHandle (position : Nat) (request : Request) (on : Exchange σ)
      (mav : Option (ModelAndView σ)) (result : Except Failure Unit)
  | render (model : Option Model) (request : Request) (on : Exchange σ)
      (result : Except RenderError Unit)
  | afterCompletion (position : Nat) (request : Request) (failure : Option Failure)
      (on : Exchange σ) (result : Except Failure Unit)

/-- A world with a log of calls beside it. -/
abbrev Logged (σ : Type) : Type := σ × List (Call σ)

namespace Exchange

variable {σ : Type}

/-- The exchange without the log. -/
def bare (x : Exchange (Logged σ)) : Exchange σ := ⟨x.response, x.world.1, x.journal⟩

/-- The log of calls. -/
def calls (x : Exchange (Logged σ)) : List (Call σ) := x.world.2

/-- The exchange with a log. -/
def logged (x : Exchange σ) (calls : List (Call σ)) : Exchange (Logged σ) :=
  ⟨x.response, (x.world, calls), x.journal⟩

@[simp] theorem bare_logged (x : Exchange σ) (calls : List (Call σ)) :
    (x.logged calls).bare = x := rfl

@[simp] theorem calls_logged (x : Exchange σ) (calls : List (Call σ)) :
    (x.logged calls).calls = calls := rfl

end Exchange

/-! ## Views and models with views -/

namespace View

variable {σ : Type}

/-- The view under observation. -/
def observed (view : View σ) : View (Logged σ) where
  contentType := view.contentType
  render model request x :=
    let (result, y) := view.render model request x.bare
    (result, y.logged (x.calls ++ [.render model request x.bare result]))

/-- The view as it is seen where there is no log. -/
def bare (view : View (Logged σ)) : View σ where
  contentType := view.contentType
  render model request x :=
    let (result, y) := view.render model request (x.logged [])
    (result, y.bare)

@[simp] theorem bare_observed (view : View σ) : view.observed.bare = view := rfl

end View

namespace ViewRef

variable {σ τ : Type}

/-- The reference with another view, where it holds one. -/
def map (f : View σ → View τ) : ViewRef σ → ViewRef τ
  | .named name => .named name
  | .resolved view => .resolved (f view)

end ViewRef

namespace ModelAndView

variable {σ τ : Type}

/-- The model-and-view with another view, where it holds one. -/
def mapView (f : View σ → View τ) (m : ModelAndView σ) : ModelAndView τ :=
  ⟨m.view.map (·.map f), m.model, m.status, m.cleared⟩

@[simp] theorem wasCleared_mapView (f : View σ → View τ) (m : ModelAndView σ) :
    (m.mapView f).wasCleared = m.wasCleared := by
  simp [wasCleared, isEmpty, mapView]

/-- The model-and-view under observation. -/
def observed (m : ModelAndView σ) : ModelAndView (Logged σ) := m.mapView View.observed

/-- The model-and-view as it is seen where there is no log. -/
def bare (m : ModelAndView (Logged σ)) : ModelAndView σ := m.mapView View.bare

@[simp] theorem bare_observed (m : ModelAndView σ) : m.observed.bare = m := by
  obtain ⟨view, model, status, cleared⟩ := m
  rcases view with _ | _ | _ <;> rfl

end ModelAndView

/-! ## Activities -/

/-- How a state with a log relates to the state without it. -/
structure Observation (σ S T : Type) where
  bare : T → S
  calls : T → List (Call σ)
  logged : S → List (Call σ) → T
  bare_logged : ∀ s log, bare (logged s log) = s
  calls_logged : ∀ s log, calls (logged s log) = log

namespace Observation

variable {σ S T α : Type}

/-- The observation of an exchange. -/
def exchange : Observation σ (Exchange σ) (Exchange (Logged σ)) :=
  ⟨Exchange.bare, Exchange.calls, Exchange.logged, fun _ _ => rfl, fun _ _ => rfl⟩

/-- The observation of an exchange together with what the handler has answered. -/
def answer : Observation σ (Exchange σ × Option (ModelAndView σ))
    (Exchange (Logged σ) × Option (ModelAndView (Logged σ))) where
  bare := fun (x, mav) => (x.bare, mav.map ModelAndView.bare)
  calls := fun (x, _) => x.calls
  logged := fun (x, mav) log => (x.logged log, mav.map ModelAndView.observed)
  bare_logged := by
    rintro ⟨x, mav⟩ log
    simp [Option.map_map, Function.comp_def]
  calls_logged := fun _ _ => rfl

/-- Calls an activity that cannot see the log, and enters the call. -/
def call (o : Observation σ S T) (entry : S → α → Call σ) (p : Activity S α) : Activity T α :=
  fun t => ((p (o.bare t)).mapState fun s => o.logged s (o.calls t)).bind fun a t' =>
    .done a (o.logged (o.bare t') (o.calls t' ++ [entry (o.bare t) a]))

theorem result_call (o : Observation σ S T) (entry : S → α → Call σ) (p : Activity S α) (s : S)
    (log : List (Call σ)) : (o.call entry p (o.logged s log)).result = (p s).result := by
  simp [call, o.bare_logged]

theorem state_call (o : Observation σ S T) (entry : S → α → Call σ) (p : Activity S α) (s : S)
    (log : List (Call σ)) :
    (o.call entry p (o.logged s log)).state =
      o.logged (p s).state (log ++ [entry s (p s).result]) := by
  simp [call, o.bare_logged, o.calls_logged]

end Observation

/-! ## Interceptors, registries and dispatchers -/

variable {σ : Type}

/-- The interceptor under observation, for a position in the registry. -/
def Interceptor.observed (i : Interceptor σ) (position : Nat) : Interceptor (Logged σ) where
  preHandle request handler :=
    Observation.exchange.call (.preHandle position request) (i.preHandle request handler)
  postHandle request handler :=
    Observation.answer.call (fun s => .postHandle position request s.1 s.2)
      (i.postHandle request handler)
  afterCompletion request handler failure :=
    Observation.exchange.call (.afterCompletion position request failure)
      (i.afterCompletion request handler failure)

theorem Interceptor.observed_postHandle (i : Interceptor σ) (position : Nat) (request : Request)
    (handler : HandlerRef) :
    (i.observed position).postHandle request handler =
      Observation.answer.call (fun s => .postHandle position request s.1 s.2)
        (i.postHandle request handler) := rfl

/-- The mapping under observation. -/
def Mapping.observed (m : Mapping σ) (position : Nat) : Mapping (Logged σ) :=
  ⟨m.interceptor.observed position, m.includes, m.excludes, m.matcher⟩

/-- The registry under observation, every mapping at its position. -/
def Registry.observed (r : Registry σ) : Registry (Logged σ) :=
  ⟨r.mappings.zipIdx.map fun (m, position) => m.observed position, r.matcher⟩

/-- The dispatcher under observation. -/
def Dispatcher.observed (d : Dispatcher σ) : Dispatcher (Logged σ) where
  registry := d.registry.observed
  handler request := do
    let result ← Observation.exchange.call (.handle request) (d.handler request)
    return result.map (·.map ModelAndView.observed)
  handlerRef := d.handlerRef
  resolver := d.resolver.map fun resolve name => (resolve name).map View.observed
  lookup := d.lookup

/-! ## The logic of logs -/

variable {S T α α' β β' : Type}

/-- Under observation an activity pauses as it does without it, its result is the image of its
result, and it ends in the same state, with calls appended to the log that satisfy a condition. -/
def Observes (o : Observation σ S T) (f : α → α') (p : Activity S α) (p' : Activity T α')
    (Q : List (Call σ) → α → Prop) : Prop :=
  ∀ s log, ∃ calls,
    ((p' (o.logged s log)).pauses.map fun (d, t) => (d, o.bare t)) = (p s).pauses ∧
    (p' (o.logged s log)).result = f (p s).result ∧
    (p' (o.logged s log)).state = o.logged (p s).state (log ++ calls) ∧
    Q calls (p s).result

namespace Observes

variable {o : Observation σ S T} {f : α → α'} {g : β → β'} {p : Activity S α}
variable {p' : Activity T α'} {Q Q' : List (Call σ) → α → Prop}

theorem mono (h : Observes o f p p' Q) (imp : ∀ calls a, Q calls a → Q' calls a) :
    Observes o f p p' Q' := by
  intro s log
  obtain ⟨calls, pauses, result, state, hq⟩ := h s log
  exact ⟨calls, pauses, result, state, imp calls _ hq⟩

theorem pure {a : α} (h : Q [] a) : Observes o f (Pure.pure a) (Pure.pure (f a)) Q :=
  fun _ _ => ⟨[], rfl, rfl, by rw [List.append_nil]; rfl, h⟩

/-- What follows is observed for each result of the first activity, with the calls that were made
before it put in front. -/
theorem bind {k : α → Activity S β} {k' : α' → Activity T β'}
    {R : List (Call σ) → β → Prop} (h : Observes o f p p' Q)
    (next : ∀ a calls, Q calls a →
      Observes o g (k a) (k' (f a)) fun more b => R (calls ++ more) b) :
    Observes o g (p >>= k) (p' >>= k') R := by
  intro s log
  obtain ⟨calls, pauses, result, state, hq⟩ := h s log
  obtain ⟨more, pauses', result', state', hr⟩ := next _ calls hq (p s).state (log ++ calls)
  refine ⟨calls ++ more, ?_, ?_, ?_, ?_⟩
  · simp only [Activity.bind_apply, Run.pauses_bind, List.map_append, result, state, pauses, pauses']
  · simp only [Activity.bind_apply, Run.result_bind, result, state, result']
  · simp only [Activity.bind_apply, Run.state_bind, result, state, state', List.append_assoc]
  · simpa only [Activity.bind_apply, Run.result_bind] using hr

theorem step {h : S → α × S} {h' : T → α' × T}
    (run : ∀ s log, ∃ calls, h' (o.logged s log) = (f (h s).1, o.logged (h s).2 (log ++ calls)) ∧
      Q calls (h s).1) : Observes o f (.step h) (.step h') Q := by
  intro s log
  obtain ⟨calls, eq, hq⟩ := run s log
  refine ⟨calls, rfl, ?_, ?_, hq⟩
  · exact congrArg Prod.fst eq
  · exact congrArg Prod.snd eq

/-- Under observation the result may be changed in the end. -/
theorem mapResult (h : Observes o f p p' Q) (k : α' → β') :
    Observes o (fun a => k (f a)) p (p' >>= fun a => Pure.pure (k a)) Q := by
  intro s log
  obtain ⟨calls, pauses, result, state, hq⟩ := h s log
  refine ⟨calls, ?_, ?_, ?_, hq⟩
  · simpa [Activity.bind_apply, Activity.pure_apply] using pauses
  · simp [Activity.bind_apply, Activity.pure_apply, result]
  · simpa [Activity.bind_apply, Activity.pure_apply] using state

/-- A call is entered with the state that it is made on and with its result. -/
theorem call {entry : S → α → Call σ}
    (h : ∀ s, Q [entry s (p s).result] (p s).result) : Observes o id p (o.call entry p) Q := by
  intro s log
  refine ⟨[entry s (p s).result], ?_, o.result_call entry p s log, o.state_call entry p s log, h s⟩
  simp [Observation.call, o.bare_logged, Function.comp_def]

/-- What the handler has answered may be a part of the state for a while. -/
theorem withPart {p : Activity (Exchange σ × Option (ModelAndView σ)) α}
    {p' : Activity (Exchange (Logged σ) × Option (ModelAndView (Logged σ))) α'}
    (h : Observes .answer f p p' Q) (mav : Option (ModelAndView σ)) :
    Observes .exchange (Prod.map f (Option.map ModelAndView.observed)) (Activity.withPart mav p)
      (Activity.withPart (mav.map ModelAndView.observed) p') fun calls a => Q calls a.1 := by
  intro x log
  obtain ⟨calls, pauses, result, state, hq⟩ := h (x, mav) log
  refine ⟨calls, ?_, ?_, ?_, ?_⟩
  · have firsts := congrArg (List.map fun q => (q.1, q.2.1)) pauses
    simpa [Activity.withPart, Observation.exchange, Observation.answer, Function.comp_def] using
      firsts
  · simp only [Activity.withPart, Run.result_withPart]
    exact congrArg₂ Prod.mk result (congrArg (fun s => s.2) state)
  · simp only [Activity.withPart, Run.state_withPart]
    exact congrArg Prod.fst state
  · simpa [Activity.withPart] using hq

/-- What is known of an activity on an exchange when the log is empty at first. -/
theorem run {p : Activity (Exchange σ) α} {p' : Activity (Exchange (Logged σ)) α}
    (h : Observes .exchange id p p' Q) (x : Exchange σ) :
    (p' (x.logged [])).mapState Exchange.bare = p x ∧
      Q (p' (x.logged [])).state.calls (p x).result := by
  obtain ⟨calls, pauses, result, state, hq⟩ := h x []
  have logged : (p' (x.logged [])).state = (p x).state.logged calls := state
  constructor
  · apply Run.ext
    · rw [Run.pauses_mapState]
      exact pauses
    · rw [Run.result_mapState]
      exact result
    · rw [Run.state_mapState, logged, Exchange.bare_logged]
  · rwa [logged, Exchange.calls_logged]

end Observes

end Interception
