import Interception.Interceptor.Timeout
import Interception.Interceptor.Web
import Interception.Mapping
import Interception.Proofs.Run

/-!
# Interceptors in layers

Around an interceptor, of either kind, there may be layers in any order and number: mappings,
shared references, and limits on time. A call that exceeds no limit takes exactly the course that
it takes at the core; so what the core raises comes out of the layers as it was raised.
-/

namespace Interception

variable {σ τ α : Type}

/-! ## Limits -/

namespace Run

@[simp] theorem elapsed_pause (d : Nat) (s : σ) (rest : Run σ α) :
    (pause d s rest).elapsed = d + rest.elapsed := rfl

/-- A run that does not take longer than the limit is not stopped. -/
theorem within_of_elapsed_le {r : Run σ α} {limit : Nat} (h : r.elapsed ≤ limit) :
    r.within limit = r.map some := by
  induction r generalizing limit with
  | done a s => rfl
  | pause d s rest ih =>
      rw [elapsed_pause] at h
      have first : d ≤ limit := by omega
      have later : rest.elapsed ≤ limit - d := by omega
      simp only [within, first, if_true, ih later]
      rfl

theorem map_map {β γ : Type} (f : α → β) (g : β → γ) (r : Run σ α) :
    (r.map f).map g = r.map fun a => g (f a) := by
  induction r with
  | done a s => rfl
  | pause d s rest ih => exact congrArg (pause d s) ih

theorem map_id (r : Run σ α) : (r.map fun a => a) = r := by
  induction r with
  | done a s => rfl
  | pause d s rest ih => exact congrArg (pause d s) ih

end Run

/-- A limit that is not exceeded changes nothing. -/
theorem Interceptor.limited_of_elapsed_le {limit : Nat} {call : Activity τ (Except Failure α)}
    {s : τ} (h : (call s).elapsed ≤ limit) : limited limit call s = call s := by
  rw [limited, Run.within_of_elapsed_le h, Run.map_map]
  exact Run.map_id (call s)

/-! ## Layers -/

/-- An interceptor of either kind. -/
inductive Core (σ : Type) where
  | wide (interceptor : Interceptor σ)
  | web (narrow : WebInterceptor σ)

namespace Core

def toInterceptor : Core σ → Interceptor σ
  | wide interceptor => interceptor
  | web narrow => narrow.toInterceptor

/-- The hook of the interceptor before the handler fails. -/
def RaisesBefore (request : Request) (handler : HandlerRef) (on : Exchange σ) (failure : Failure) :
    Core σ → Prop
  | wide interceptor => (interceptor.preHandle request handler on).result = .error failure
  | web narrow => (narrow.preHandle request on).result = .error failure

/-- The hook of the interceptor after the handler fails. A web interceptor is called on the
model. -/
def RaisesAfter (request : Request) (handler : HandlerRef)
    (on : Exchange σ × Option (ModelAndView σ)) (failure : Failure) : Core σ → Prop
  | wide interceptor => (interceptor.postHandle request handler on).result = .error failure
  | web narrow =>
    (narrow.postHandle request (on.1, WebInterceptor.visibleModel on.2)).result = .error failure

variable {request : Request} {handler : HandlerRef} {failure : Failure}

theorem preHandle_eq_error_iff {core : Core σ} {on : Exchange σ} :
    (core.toInterceptor.preHandle request handler on).result = .error failure ↔
      core.RaisesBefore request handler on failure := by
  cases core with
  | wide interceptor => exact Iff.rfl
  | web narrow =>
      simp only [toInterceptor, WebInterceptor.toInterceptor, RaisesBefore, Activity.bind_apply,
        Run.result_bind]
      cases (narrow.preHandle request on).result with
      | ok => simp [Activity.pure_apply]
      | error e => simp [Activity.pure_apply]

theorem postHandle_eq_error_iff {core : Core σ} {on : Exchange σ × Option (ModelAndView σ)} :
    (core.toInterceptor.postHandle request handler on).result = .error failure ↔
      core.RaisesAfter request handler on failure := by
  cases core with
  | wide interceptor => exact Iff.rfl
  | web narrow =>
      simp only [toInterceptor, WebInterceptor.toInterceptor, RaisesAfter, Run.result_mapState]

end Core

/-- An interceptor with layers around it. -/
inductive Layered (σ : Type) where
  | core (core : Core σ)
  | mapped (includes excludes : Option (List String)) (matcher : Option PathMatcher)
      (inner : Layered σ)
  | shared (inner : Layered σ)
  | timed (limit : Nat) (inner : Layered σ)

namespace Layered

def toInterceptor : Layered σ → Interceptor σ
  | core c => c.toInterceptor
  | mapped includes excludes matcher inner =>
    Mapping.toInterceptor ⟨inner.toInterceptor, includes, excludes, matcher⟩
  | shared inner => inner.toInterceptor.forward
  | timed limit inner => inner.toInterceptor.timeout limit

/-- The interceptor without its layers. -/
def innermost : Layered σ → Core σ
  | core c => c
  | mapped _ _ _ inner => inner.innermost
  | shared inner => inner.innermost
  | timed _ inner => inner.innermost

/-- The limits of all layers that have one. -/
def limits : Layered σ → List Nat
  | core _ => []
  | mapped _ _ _ inner => inner.limits
  | shared inner => inner.limits
  | timed limit inner => limit :: inner.limits

/-- A call of the interceptor without its layers exceeds no limit. -/
def InTime (l : Layered σ) (call : Interceptor σ → Run τ α) : Prop :=
  ∀ limit ∈ l.limits, (call l.innermost.toInterceptor).elapsed ≤ limit

/-- A call that exceeds no limit takes the course that it takes at the core, whichever hook it is
that is called. -/
theorem call_of_inTime {l : Layered σ} {call : Interceptor σ → Activity τ (Except Failure α)}
    (timeout : ∀ limit i, call (.timeout limit i) = Interceptor.limited limit (call i)) {s : τ}
    (h : l.InTime fun i => call i s) :
    call l.toInterceptor s = call l.innermost.toInterceptor s := by
  induction l with
  | core c => rfl
  | mapped _ _ _ inner ih => exact ih h
  | shared inner ih => exact ih h
  | timed limit inner ih =>
      have own := ih fun other mem => h other (List.mem_cons_of_mem limit mem)
      have inTime : (call inner.toInterceptor s).elapsed ≤ limit := by
        rw [own]
        exact h limit List.mem_cons_self
      calc call (.timeout limit inner.toInterceptor) s
          = Interceptor.limited limit (call inner.toInterceptor) s := by rw [timeout]
        _ = call inner.toInterceptor s := Interceptor.limited_of_elapsed_le inTime
        _ = call inner.innermost.toInterceptor s := own

variable {l : Layered σ} {request : Request} {handler : HandlerRef} {failure : Failure}

/-- What is raised before the handler comes out of the layers as it was raised. -/
theorem preHandle_eq_error_iff {on : Exchange σ}
    (h : l.InTime fun i => i.preHandle request handler on) :
    (l.toInterceptor.preHandle request handler on).result = .error failure ↔
      l.innermost.RaisesBefore request handler on failure := by
  rw [call_of_inTime (fun _ _ => rfl) h]
  exact Core.preHandle_eq_error_iff

/-- What is raised after the handler comes out of the layers as it was raised. -/
theorem postHandle_eq_error_iff {on : Exchange σ × Option (ModelAndView σ)}
    (h : l.InTime fun i => i.postHandle request handler on) :
    (l.toInterceptor.postHandle request handler on).result = .error failure ↔
      l.innermost.RaisesAfter request handler on failure := by
  rw [call_of_inTime (fun _ _ => rfl) h]
  exact Core.postHandle_eq_error_iff

end Layered

end Interception
