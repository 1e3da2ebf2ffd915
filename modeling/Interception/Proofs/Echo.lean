import Interception.Proofs.Lifecycle
import Interception.Proofs.Simulation

/-!
# Logs of two requests side by side

Nothing depends on what has been reported: what reads no journal takes the same course with any
journal. Of two requests side by side the second echoes the first if the exchanges are the same, the
journals aside, and the same calls have been made, where interceptors go by their positions in two
registries, and calls of interceptors that are only in the second registry are left out.

If hooks, handler and views read no journal, an interceptor under observation echoes itself at
another position.
-/

namespace Interception

variable {σ : Type}

/-! ## Journals -/

/-- The exchanges are the same but for their journals. -/
structure Exchange.Alike (x y : Exchange σ) : Prop where
  response : x.response = y.response
  world : x.world = y.world

/-- What the view does with an exchange does not depend on its journal. -/
def View.IgnoresJournal (view : View σ) : Prop :=
  ∀ model request x y, x.Alike y →
    (view.render model request x).1 = (view.render model request y).1 ∧
      (view.render model request x).2.Alike (view.render model request y).2

/-- If there is a view in the model-and-view, it ignores the journal. -/
def ModelAndView.IgnoresJournal (m : ModelAndView σ) : Prop :=
  ∀ view, m.view = some (.resolved view) → view.IgnoresJournal

/-- The answers are the same, and ignore the journal. -/
def SameAnswer (mav mav' : Option (ModelAndView σ)) : Prop :=
  mav = mav' ∧ ∀ m ∈ mav, m.IgnoresJournal

/-- Everything is taken for the same but journals. -/
def journalAside (σ : Type) : Correspondence σ where
  exchange := Exchange.Alike
  answer := SameAnswer
  report := fun alike _ _ => ⟨alike.response, alike.world⟩

/-- The hooks of the interceptor do not depend on the journal. -/
def Interceptor.IgnoresJournal (i : Interceptor σ) : Prop := i.Simulated (journalAside σ) i

/-- Nothing that the dispatcher calls depends on the journal. Reports are made and never read back, so
this rules out nothing but a journal taken for more than it is. -/
structure Dispatcher.IgnoresJournal (d : Dispatcher σ) : Prop where
  interceptors : ∀ m ∈ d.registry.mappings, m.interceptor.IgnoresJournal
  handler : ∀ request, Simulates Exchange.Alike (SameOutcome SameAnswer) (d.handler request)
    (d.handler request)
  views : ∀ name view, d.resolve (.named name) = .ok view → view.IgnoresJournal

/-! ## Calls -/

namespace Call

/-- The call with another position of the interceptor, if there is one for it. Calls of the handler
and of views are as they are. -/
def renumbered (f : Nat → Option Nat) : Call σ → Option (Call σ)
  | .preHandle position request on result => (f position).map (.preHandle · request on result)
  | .handle request on result => some (.handle request on result)
  | .postHandle position request on mav result =>
    (f position).map (.postHandle · request on mav result)
  | .render model request on result => some (.render model request on result)
  | .afterCompletion position request failure on result =>
    (f position).map (.afterCompletion · request failure on result)

/-- The same call with the same result, on exchanges that are the same but for their journals. -/
inductive Alike : Call σ → Call σ → Prop where
  | preHandle {x y : Exchange σ} (alike : x.Alike y) (position : Nat) (request : Request)
      (result : Except Failure Bool) :
      Alike (.preHandle position request x result) (.preHandle position request y result)
  | handle {x y : Exchange σ} (alike : x.Alike y) (request : Request)
      (result : Except Failure (Option (ModelAndView σ))) :
      Alike (.handle request x result) (.handle request y result)
  | postHandle {x y : Exchange σ} (alike : x.Alike y) (position : Nat) (request : Request)
      (mav : Option (ModelAndView σ)) (result : Except Failure Unit) :
      Alike (.postHandle position request x mav result) (.postHandle position request y mav result)
  | render {x y : Exchange σ} (alike : x.Alike y) (model : Option Model) (request : Request)
      (result : Except RenderError Unit) :
      Alike (.render model request x result) (.render model request y result)
  | afterCompletion {x y : Exchange σ} (alike : x.Alike y) (position : Nat) (request : Request)
      (failure : Option Failure) (result : Except Failure Unit) :
      Alike (.afterCompletion position request failure x result)
        (.afterCompletion position request failure y result)

end Call

/-- Without the calls of interceptors that have no position in the first registry, the second log is
the first one. -/
def Echoed (f : Nat → Option Nat) (log log' : List (Call σ)) : Prop :=
  List.Forall₂ Call.Alike log (log'.filterMap (Call.renumbered f))

variable {f : Nat → Option Nat}

theorem Echoed.concat {log log' : List (Call σ)} {call call' own : Call σ} (h : Echoed f log log')
    (kept : call'.renumbered f = some own) (alike : call.Alike own) :
    Echoed f (log ++ [call]) (log' ++ [call']) := by
  rw [Echoed, List.filterMap_append, List.filterMap_cons_some kept]
  exact List.rel_append h (.cons alike .nil)

theorem Echoed.concat_right {log log' : List (Call σ)} {call' : Call σ} (h : Echoed f log log')
    (dropped : call'.renumbered f = none) : Echoed f log (log' ++ [call']) := by
  rw [Echoed, List.filterMap_append, List.filterMap_cons_none dropped, List.filterMap_nil,
    List.append_nil]
  exact h

/-! ## Activities under observation -/

namespace Observation

variable {S T α β : Type} {o : Observation σ S T} {R : S → S → Prop} {V : α → β → Prop}
variable {p : Activity S α} {q : Activity S β}

/-- The states without the log are related, and the second log echoes the first. -/
def Echo (o : Observation σ S T) (R : S → S → Prop) (f : Nat → Option Nat) (t t' : T) : Prop :=
  ∃ s s' log log', t = o.logged s log ∧ t' = o.logged s' log' ∧ R s s' ∧ Echoed f log log'

theorem call_simulates {entry : S → α → Call σ} {entry' : S → β → Call σ} (h : Simulates R V p q)
    (entries : ∀ s s' a b, R s s' → V a b →
      ∃ call, (entry' s' b).renumbered f = some call ∧ (entry s a).Alike call) :
    Simulates (o.Echo R f) V (o.call entry p) (o.call entry' q) := by
  rintro _ _ ⟨s, s', log, log', rfl, rfl, related, echoed⟩
  simp only [Observation.call, o.bare_logged, o.calls_logged]
  have run : Run.Related (o.Echo R f) V ((p s).mapState fun s => o.logged s log)
      ((q s').mapState fun s' => o.logged s' log') :=
    (h s s' related).mapState fun s s' related => ⟨s, s', log, log', rfl, rfl, related, echoed⟩
  apply run.bind
  rintro a b _ _ same ⟨last, last', log, log', rfl, rfl, states, echoed⟩
  obtain ⟨call, kept, alike⟩ := entries s s' a b related same
  simp only [o.bare_logged, o.calls_logged]
  exact .done same ⟨last, last', _, _, rfl, rfl, states, echoed.concat kept alike⟩

theorem call_skips {b : β} {entry' : S → β → Call σ} (h : Skips R q b)
    (dropped : ∀ s b, (entry' s b).renumbered f = none) :
    Skips (o.Echo R f) (o.call entry' q) b := by
  rintro _ _ ⟨s, s', log, log', rfl, rfl, related, echoed⟩
  obtain ⟨last, ran, related⟩ := h s s' related
  refine ⟨o.logged last (log' ++ [entry' s' b]), ?_, s, last, _, _, rfl, rfl, related,
    echoed.concat_right (dropped s' b)⟩
  simp only [Observation.call, o.bare_logged, o.calls_logged, ran]
  simp only [Run.mapState, Run.bind_done, o.bare_logged, o.calls_logged]

end Observation

/-! ## Interceptors and dispatchers under observation -/

/-- The answers are the same answer under observation. -/
def SameObserved (mav mav' : Option (ModelAndView (Logged σ))) : Prop :=
  ∃ m, SameAnswer m m ∧ mav = m.map ModelAndView.observed ∧ mav' = m.map ModelAndView.observed

/-- The second request echoes the first. -/
def echo (σ : Type) (f : Nat → Option Nat) : Correspondence (Logged σ) where
  exchange := Observation.exchange.Echo Exchange.Alike f
  answer := SameObserved
  report := by
    rintro _ _ ⟨x, y, log, log', rfl, rfl, alike, echoed⟩ e e'
    exact ⟨x.report e, y.report e', log, log', rfl, rfl, ⟨alike.response, alike.world⟩, echoed⟩

/-- An exchange and an answer under observation are together what is observed of both. -/
theorem beside_echo : Beside (echo σ f).exchange (echo σ f).answer =
    Observation.answer.Echo (Beside Exchange.Alike SameAnswer) f := by
  funext ⟨x, mav⟩ ⟨y, mav'⟩
  apply propext
  constructor
  · rintro ⟨⟨x, y, log, log', rfl, rfl, alike, echoed⟩, m, same, rfl, rfl⟩
    exact ⟨(x, m), (y, m), log, log', rfl, rfl, ⟨alike, same⟩, echoed⟩
  · rintro ⟨⟨x, m⟩, ⟨y, _⟩, log, log', own, own', ⟨alike, rfl, ignores⟩, echoed⟩
    obtain ⟨rfl, rfl⟩ := Prod.mk.inj own
    obtain ⟨rfl, rfl⟩ := Prod.mk.inj own'
    exact ⟨⟨x, y, log, log', rfl, rfl, alike, echoed⟩, m, ⟨rfl, ignores⟩, rfl, rfl⟩

variable {i : Interceptor σ} {position own : Nat}

/-- Under observation an interceptor echoes itself at another position. -/
theorem Interceptor.IgnoresJournal.observed (h : i.IgnoresJournal) (kept : f position = some own) :
    (i.observed own).Simulated (echo σ f) (i.observed position) where
  preHandle request handler := by
    apply Observation.call_simulates (h.preHandle request handler)
    rintro x y result _ alike rfl
    exact ⟨_, by rw [Call.renumbered, kept]; rfl, .preHandle alike own request result⟩
  postHandle request handler := by
    rw [beside_echo]
    simp only [Interceptor.observed_postHandle]
    apply Observation.call_simulates (h.postHandle request handler)
    rintro ⟨x, mav⟩ ⟨y, _⟩ result _ ⟨alike, rfl, _⟩ rfl
    exact ⟨_, by rw [Call.renumbered, kept]; rfl, .postHandle alike own request mav result⟩
  afterCompletion request handler failure := by
    apply Observation.call_simulates (h.afterCompletion request handler failure)
    rintro x y result _ alike rfl
    exact ⟨_, by rw [Call.renumbered, kept]; rfl, .afterCompletion alike own request failure result⟩

/-- Under observation an interceptor that lets everything pass leaves no echo. -/
theorem Interceptor.Skipped.observed (h : i.Skipped (journalAside σ)) (dropped : f position = none) :
    (i.observed position).Skipped (echo σ f) where
  preHandle request handler := by
    apply Observation.call_skips (h.preHandle request handler)
    intro x result
    rw [Call.renumbered, dropped]
    rfl
  postHandle request handler := by
    rw [beside_echo]
    simp only [Interceptor.observed_postHandle]
    apply Observation.call_skips (h.postHandle request handler)
    intro s result
    rw [Call.renumbered, dropped]
    rfl
  afterCompletion request handler failure := by
    apply Observation.call_skips (h.afterCompletion request handler failure)
    intro x result
    rw [Call.renumbered, dropped]
    rfl

/-- A view that ignores the journal is rendered to the same, and its call is entered in both logs. -/
theorem View.IgnoresJournal.observed {view : View σ} (h : view.IgnoresJournal) {x y : Exchange σ}
    {log log' : List (Call σ)} (alike : x.Alike y) (echoed : Echoed f log log')
    (model : Option Model) (request : Request) :
    (view.observed.render model request (x.logged log)).1 =
        (view.observed.render model request (y.logged log')).1 ∧
      (echo σ f).exchange (view.observed.render model request (x.logged log)).2
        (view.observed.render model request (y.logged log')).2 := by
  obtain ⟨result, last⟩ := h model request x y alike
  refine ⟨result, _, _, _, _, rfl, rfl, last, ?_⟩
  apply echoed.concat rfl
  simp only [Exchange.bare_logged, result]
  exact .render alike model request _

namespace Dispatcher

variable {d : Dispatcher σ}

/-- The dispatcher with other mappings. -/
def registering (d : Dispatcher σ) (mappings : List (Mapping σ)) : Dispatcher σ :=
  { d with registry := { d.registry with mappings } }

theorem readyFor_alike {x y : Exchange σ} (alike : x.Alike y) (m : ModelAndView σ) :
    (readyFor m x).Alike (readyFor m y) := by
  rw [readyFor, readyFor]
  cases m.status with
  | none => exact alike
  | some status => exact ⟨congrArg (Response.setStatus · status) alike.response, alike.world⟩

/-- The view that is found for a model-and-view ignores the journal. -/
theorem IgnoresJournal.view (h : d.IgnoresJournal) {m : ModelAndView σ} (own : m.IgnoresJournal)
    {ref : ViewRef σ} {view : View σ} (chosen : m.view = some ref)
    (found : d.resolve ref = .ok view) : view.IgnoresJournal := by
  cases ref with
  | named name => exact h.views name view found
  | resolved other =>
      obtain rfl := Except.ok.inj found
      exact own other chosen

theorem render_echo (h : d.IgnoresJournal) (request : Request) {m : ModelAndView σ}
    (own : m.IgnoresJournal) :
    Simulates (echo σ f).exchange Eq (.step (d.observed.render m.observed request))
      (.step (d.observed.render m.observed request)) := by
  rintro _ _ ⟨x, y, log, log', rfl, rfl, alike, echoed⟩
  have same : (echo σ f).exchange (x.logged log) (y.logged log') :=
    ⟨x, y, log, log', rfl, rfl, alike, echoed⟩
  show Run.Related (echo σ f).exchange Eq
    (Activity.step (d.observed.render m.observed request) (x.logged log))
    (Activity.step (d.observed.render m.observed request) (y.logged log'))
  have shown : m.observed.view = m.view.map (·.map View.observed) := rfl
  cases chosen : m.view with
  | none =>
      rw [chosen] at shown
      simp only [Activity.step, render, shown, Option.map_none]
      exact .done rfl same
  | some ref =>
      rw [chosen, Option.map_some] at shown
      have found' : d.observed.resolve (ref.map View.observed) = _ := resolve_observed ref
      cases found : d.resolve ref with
      | error e =>
          rw [found] at found'
          simp only [Activity.step, render, shown, found', Except.map]
          exact .done rfl same
      | ok view =>
          rw [found] at found'
          have ignores := h.view own chosen found
          obtain ⟨result, last⟩ := ignores.observed (readyFor_alike alike m) echoed
            (some m.observed.model) request
          have rendered := render_of_resolve shown found' request
          simp only [Activity.step, rendered, readyFor_observed]
          exact .done (congrArg (Except.mapError DispatchError.render) result) last

theorem renderAnswer_echo (h : d.IgnoresJournal) (request : Request)
    {m : Option (ModelAndView σ)} (ignores : ∀ a ∈ m, a.IgnoresJournal) :
    Simulates (echo σ f).exchange Eq
      (d.observed.renderAnswer (m.map ModelAndView.observed) request)
      (d.observed.renderAnswer (m.map ModelAndView.observed) request) := by
  unfold renderAnswer
  cases m with
  | none => exact .pure rfl
  | some m =>
      simp only [Option.map_some, Option.filter_some, ModelAndView.observed,
        ModelAndView.wasCleared_mapView]
      cases m.wasCleared with
      | true => exact .pure rfl
      | false => exact render_echo h request (ignores m rfl)

theorem handler_echo (h : d.IgnoresJournal) (request : Request) :
    Simulates (echo σ f).exchange (SameOutcome SameObserved) (d.observed.handler request)
      (d.observed.handler request) := by
  have call : Simulates (Observation.exchange.Echo Exchange.Alike f) (SameOutcome SameAnswer)
      (Observation.exchange.call (.handle request) (d.handler request))
      (Observation.exchange.call (.handle request) (d.handler request)) := by
    apply Observation.call_simulates (h.handler request)
    rintro x y _ _ alike outcome
    cases outcome with
    | error failure => exact ⟨_, rfl, .handle alike request (.error failure)⟩
    | ok same =>
        obtain ⟨rfl, _⟩ := same
        exact ⟨_, rfl, .handle alike request (.ok _)⟩
  apply Simulates.bind call
  intro _ _ outcome
  cases outcome with
  | error failure => exact .pure (.error failure)
  | ok same =>
      obtain ⟨rfl, ignores⟩ := same
      exact .pure (.ok ⟨_, ⟨rfl, ignores⟩, rfl, rfl⟩)

theorem IgnoresJournal.observed (h : d.IgnoresJournal) (mappings : List (Mapping σ)) :
    Simulated (echo σ f) d.observed (d.registering mappings).observed where
  handlerRef_eq := rfl
  handler request := handler_echo h request
  renderAnswer request mav mav' same := by
    obtain ⟨m, ⟨_, ignores⟩, rfl, rfl⟩ := same
    exact renderAnswer_echo h request ignores

end Dispatcher

end Interception
