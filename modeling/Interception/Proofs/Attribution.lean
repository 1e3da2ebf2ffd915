import Interception.Proofs.Course
import Interception.Proofs.Layers

/-!
# What a request fails with

A request fails with an error exactly if it reaches a step that raises the error, and the error
keeps what was raised: its text, and the texts of its causes. Neither a refusal nor anything that is
done on completion has a part in it, and layers around an interceptor have none as long as no limit
is exceeded. On completion interceptors are shown the error that the request fails with.
-/

namespace Interception

variable {σ : Type}

namespace Dispatcher

/-! ## The same steps -/

/-- Two dispatchers take a request through the same steps, up to its completion. -/
structure SameSteps (request : Request) (d d' : Dispatcher σ) : Prop where
  agenda : d.agenda request = d'.agenda request
  opened : ∀ count x, d.opened request count x = d'.opened request count x
  handler : d.handler request = d'.handler request
  resolver : d.resolver = d'.resolver

namespace SameSteps

variable {request : Request} {d d' : Dispatcher σ} {x : Exchange σ} {agenda : Agenda σ}

theorem symm (h : SameSteps request d d') : SameSteps request d' d where
  agenda := h.agenda.symm
  opened count x := (h.opened count x).symm
  handler := h.handler.symm
  resolver := h.resolver.symm

theorem resolve (h : SameSteps request d d') (ref : ViewRef σ) :
    d.resolve ref = d'.resolve ref := by
  cases ref with
  | named name => rw [Dispatcher.resolve, Dispatcher.resolve, h.resolver]
  | resolved view => rfl

theorem proceeds (h : SameSteps request d d') {on : Exchange σ}
    (proceeds : d.Proceeds request x agenda on) : d'.Proceeds request x agenda on := by
  obtain ⟨planned, all⟩ := proceeds
  rw [h.agenda] at planned
  rw [h.opened] at all
  exact ⟨planned, all⟩

theorem answers (h : SameSteps request d d') {s : Exchange σ × Option (ModelAndView σ)}
    (answers : d.Answers request x agenda s) : d'.Answers request x agenda s := by
  obtain ⟨on, proceeds, answer⟩ := answers
  rw [h.handler] at answer
  exact ⟨on, h.proceeds proceeds, answer⟩

theorem leaves (h : SameSteps request d d') {s : Exchange σ × Option (ModelAndView σ)}
    (leaves : d.Leaves request x s) : d'.Leaves request x s := by
  obtain ⟨agenda, s₀, answers, all⟩ := leaves
  exact ⟨agenda, s₀, h.answers answers, all⟩

theorem reaches (h : SameSteps request d d') {step : Step σ} (reached : Reaches d request x step) :
    Reaches d' request x step := by
  cases reached with
  | selection => exact .selection
  | before planned turn =>
      rw [h.agenda] at planned
      rw [h.opened] at turn
      exact .before planned turn
  | handling proceeds => exact .handling (h.proceeds proceeds)
  | after answers turn => exact .after (h.answers answers) turn
  | resolution leaves chosen => exact .resolution (h.leaves leaves) chosen
  | rendering leaves chosen found =>
      rw [h.resolve] at found
      exact .rendering (h.leaves leaves) chosen found

theorem raises (h : SameSteps request d d') {step : Step σ} {e : DispatchError}
    {texts : List String} (raised : Raises d request step e texts) :
    Raises d' request step e texts := by
  cases raised with
  | selection failed =>
      rw [h.agenda] at failed
      exact .selection failed
  | before failed => exact .before failed
  | handling failed =>
      rw [h.handler] at failed
      exact .handling failed
  | after failed => exact .after failed
  | resolution missing =>
      rw [h.resolver] at missing
      exact .resolution missing
  | rendering failed => exact .rendering failed

theorem dispatch_eq_error (h : SameSteps request d d') {e : DispatchError}
    (failed : (d.dispatch request x).result = .error e) :
    (d'.dispatch request x).result = .error e := by
  obtain ⟨step, texts, reached, raised⟩ := exists_raises failed
  exact dispatch_of_raises (h.reaches reached) (h.raises raised)

/-- Requests that take the same steps end in the same way. -/
theorem dispatch_result (h : SameSteps request d d') (x : Exchange σ) :
    (d.dispatch request x).result = (d'.dispatch request x).result := by
  cases ended : (d.dispatch request x).result with
  | error e => exact (h.dispatch_eq_error ended).symm
  | ok =>
      cases ended' : (d'.dispatch request x).result with
      | error e =>
          rw [h.symm.dispatch_eq_error ended'] at ended
          cases ended
      | ok => rfl

end SameSteps

end Dispatcher

/-! ## Completion -/

/-- The interceptor with a hook on completion that does nothing. -/
def Interceptor.untilCompletion (i : Interceptor σ) : Interceptor σ :=
  { i with afterCompletion := fun _ _ _ => pure (.ok ()) }

/-- The mapping with an interceptor that does nothing on completion. -/
def Mapping.untilCompletion (m : Mapping σ) : Mapping σ :=
  { m with interceptor := m.interceptor.untilCompletion }

namespace Dispatcher

/-- The dispatcher with interceptors that do nothing on completion. -/
def untilCompletion (d : Dispatcher σ) : Dispatcher σ :=
  { d with registry := ⟨d.registry.mappings.map Mapping.untilCompletion, d.registry.matcher⟩ }

variable {d : Dispatcher σ} {request : Request} {x : Exchange σ}

theorem select_untilCompletion (path : String) :
    d.untilCompletion.registry.select path =
      (d.registry.select path).map (List.map (Prod.map Mapping.untilCompletion id)) := by
  rw [Registry.select, untilCompletion, List.zipIdx_map, selectBy_map]
  rfl

theorem agenda_untilCompletion : d.untilCompletion.agenda request = d.agenda request := by
  have path : d.untilCompletion.pathOf request = d.pathOf request := rfl
  rw [Dispatcher.agenda, Dispatcher.agenda, path, select_untilCompletion]
  cases d.registry.select (d.pathOf request) with
  | error e => rfl
  | ok entries =>
      simp only [Except.map, Agenda.ofList, List.map_map, List.map_reverse]
      rfl

theorem sameSteps_untilCompletion : SameSteps request d.untilCompletion d where
  agenda := agenda_untilCompletion
  opened count x := by
    simp only [opened, Registry.selected, untilCompletion, List.length_map]
    rfl
  handler := rfl
  resolver := rfl

end Dispatcher

/-- On completion every interceptor is shown what the request ends with. -/
theorem IsLifecycle.failure_eq {d : Dispatcher σ} {request : Request} {selected : List (Placed σ)}
    {calls : List (Call σ)} {result : Except DispatchError Unit}
    (h : IsLifecycle d request selected calls result) {position : Nat} {about : Request}
    {failure : Option Failure} {on : Exchange σ} {answer : Except Failure Unit}
    (mem : .afterCompletion position about failure on answer ∈ calls) :
    failure = (Dispatcher.errorOf result).map DispatchError.toFailure := by
  obtain ⟨phases, completion, rfl, lawful, completed⟩ := h
  simp only [Phases.steps, List.mem_append] at mem
  obtain (((mem | mem) | mem) | mem) | mem := mem
  · obtain ⟨p, _, x, made⟩ := lawful.before.exists_of_mem mem
    cases made
  · obtain ⟨x, made⟩ := lawful.of_mem_handling mem
    cases made
  · obtain ⟨p, _, x, mav, made⟩ := lawful.of_mem_after mem
    cases made
  · obtain ⟨view, model, x, made⟩ := lawful.of_mem_rendering mem
    cases made
  · obtain ⟨p, _, x, made⟩ := exists_of_mem_forall₂ completed mem
    cases made
    rfl

namespace Dispatcher

variable {d : Dispatcher σ} {request : Request} {x : Exchange σ}

theorem failure_eq_of_mem_log {position : Nat} {about : Request} {failure : Option Failure}
    {on : Exchange σ} {answer : Except Failure Unit}
    (mem : .afterCompletion position about failure on answer ∈ d.log request x) :
    failure = (errorOf (d.dispatch request x).result).map DispatchError.toFailure := by
  cases selected : d.registry.select (d.pathOf request) with
  | error e =>
      rw [log_of_select_error selected] at mem
      cases mem
  | ok entries => exact (log_of_select selected x).failure_eq mem

/-! ## Attribution -/

theorem Raises.causes_eq {step : Step σ} {e : DispatchError} {texts : List String}
    (h : Raises d request step e texts) : e.causes = texts := by
  cases h <;> rfl

/-- A request fails with an error exactly if it reaches a step that raises the error, and keeps the
text of what was raised with the texts of its causes. A refusal ends it without an error, and what
is done on completion does not change how it ends. What is raised by an interceptor behind layers,
none of whose limits is exceeded, is what the request fails with. On completion every interceptor
is shown the error that the request fails with, and none if it does not fail. -/
theorem dispatch_attribution (d : Dispatcher σ) (request : Request) (x : Exchange σ) :
    (∀ e, (d.dispatch request x).result = .error e ↔
      ∃ step texts, Reaches d request x step ∧ Raises d request step e texts) ∧
    (∀ step e texts, Raises d request step e texts → e.causes = texts) ∧
    (∀ hook on, Reaches d request x (.before hook on) → (hook on).result = .ok false →
      (d.dispatch request x).result = .ok ()) ∧
    (d.untilCompletion.dispatch request x).result = (d.dispatch request x).result ∧
    (∀ (l : Layered σ) on failure,
      Reaches d request x (.before (l.toInterceptor.preHandle request d.handlerRef) on) →
      l.InTime (fun i => i.preHandle request d.handlerRef on) →
      l.innermost.RaisesBefore request d.handlerRef on failure →
      (d.dispatch request x).result = .error (.interceptor failure)) ∧
    (∀ (l : Layered σ) on failure,
      Reaches d request x (.after (l.toInterceptor.postHandle request d.handlerRef) on) →
      l.InTime (fun i => i.postHandle request d.handlerRef on) →
      l.innermost.RaisesAfter request d.handlerRef on failure →
      (d.dispatch request x).result = .error (.interceptor failure)) ∧
    (∀ position about failure on answer,
      .afterCompletion position about failure on answer ∈ d.log request x →
      failure = (errorOf (d.dispatch request x).result).map fun e => ⟨e.message, e.causes⟩) := by
  refine ⟨?_, ?_, ?_, ?_, ?_, ?_, ?_⟩
  · intro e
    constructor
    · exact exists_raises
    · rintro ⟨step, texts, reached, raised⟩
      exact dispatch_of_raises reached raised
  · intro step e texts raised
    exact raised.causes_eq
  · intro hook on reached refused
    exact dispatch_of_refusal reached refused
  · exact sameSteps_untilCompletion.dispatch_result x
  · intro l on failure reached inTime raised
    have failed := (Layered.preHandle_eq_error_iff inTime).mpr raised
    exact dispatch_of_raises reached (.before failed)
  · intro l on failure reached inTime raised
    have failed := (Layered.postHandle_eq_error_iff inTime).mpr raised
    exact dispatch_of_raises reached (.after failed)
  · intro position about failure on answer mem
    exact failure_eq_of_mem_log mem

end Dispatcher

end Interception
