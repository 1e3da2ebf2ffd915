import Interception.Path.Lookup
import Interception.Registry

/-!
# Dispatching requests

A dispatcher takes a request through all of its steps: its lookup path selects interceptors, they
are called before the handler, the handler, they are called after the handler, the view that the
handler chose is found and rendered, and the interceptors are completed. A refusal ends a request
without a failure; whatever fails first ends it with one, except that a failure in completion is
only reported.
-/

namespace Interception

structure Dispatcher (σ : Type) where
  registry : Registry σ
  handler : Request → Activity (Exchange σ) (Except Failure (Option (ModelAndView σ)))
  handlerRef : HandlerRef
  resolver : Option (String → Option (View σ))
  lookup : Lookup

namespace Dispatcher

variable {σ : Type}

/-- The view that is meant by a reference. -/
def resolve (d : Dispatcher σ) : ViewRef σ → Except DispatchError (View σ)
  | .resolved view => .ok view
  | .named name =>
    match d.resolver.bind fun resolver => resolver name with
    | some view => .ok view
    | none => .error (.unresolvedView name)

/-- Renders a model-and-view, if it has a view: sets its status, if it has one, and writes its
model. -/
def render (d : Dispatcher σ) (mav : ModelAndView σ) (request : Request) (x : Exchange σ) :
    Except DispatchError Unit × Exchange σ :=
  match mav.view with
  | none => (.ok (), x)
  | some ref =>
    match d.resolve ref with
    | .error e => (.error e, x)
    | .ok view =>
      let x := match mav.status with
        | some status => x.setStatus status
        | none => x
      match view.render (some mav.model) request x with
      | (.ok (), x) => (.ok (), x)
      | (.error e, x) => (.error (.render e), x)

/-- Renders what is left of the handler's answer after the interceptors: nothing if there is none
or if it was cleared. -/
def renderAnswer (d : Dispatcher σ) (mav : Option (ModelAndView σ)) (request : Request) :
    Activity (Exchange σ) (Except DispatchError Unit) :=
  match mav.filter fun m => !m.wasCleared with
  | some m => .step (d.render m request)
  | none => return .ok ()

/-- The steps from the first interceptor to the view. -/
def handle (d : Dispatcher σ) (chain : Chain σ) (request : Request) :
    Activity (Exchange σ) (Except DispatchError Unit × Chain σ) := do
  match ← chain.preHandle request d.handlerRef with
  | (.error failure, chain) => return (.error (.interceptor failure), chain)
  | (.ok false, chain) => return (.ok (), chain)
  | (.ok true, chain) =>
    match ← d.handler request with
    | .error failure => return (.error (.handler failure), chain)
    | .ok mav =>
      match ← Activity.withPart mav (chain.postHandle request d.handlerRef) with
      | (.error failure, _) => return (.error (.interceptor failure), chain)
      | (.ok (), mav) => return (← d.renderAnswer mav request, chain)

/-- The report on a request that is about to be handled. -/
def dispatching (request : Request) (path : String) (count : Nat) : Event :=
  ⟨.debug, "dispatching request",
    [("method", .str request.method), ("lookup_path", .str path), ("interceptors", .int count)]⟩

/-- The report on a request that failed. -/
def failed (request : Request) (path : String) (e : DispatchError) : Event :=
  ⟨.warn, "request failed",
    [("method", .str request.method), ("lookup_path", .str path), ("error", .str e.message)]⟩

/-- The error of a result. -/
def errorOf (result : Except DispatchError Unit) : Option DispatchError :=
  match result with
  | .ok () => none
  | .error e => some e

/-- Takes a request through all of its steps, with the interceptors of a chain. -/
def dispatchWith (d : Dispatcher σ) (chain : Chain σ) (request : Request) (path : String) :
    Activity (Exchange σ) (Except DispatchError Unit) := do
  report (dispatching request path chain.interceptors.length)
  let (result, chain) ← d.handle chain request
  let _ ← chain.complete request d.handlerRef ((errorOf result).map DispatchError.toFailure)
  match result with
  | .ok () => pure ()
  | .error e => report (failed request path e)
  return result

/-- The lookup path of a request. -/
def pathOf (d : Dispatcher σ) (request : Request) : String :=
  String.ofList (d.lookup.lookupPath request.path.toList)

/-- Takes a request through all of its steps. If the selection of interceptors fails, nothing else
is done. -/
def dispatch (d : Dispatcher σ) (request : Request) :
    Activity (Exchange σ) (Except DispatchError Unit) :=
  let path := d.pathOf request
  match d.registry.chainFor path with
  | .error e => return .error (.pattern e)
  | .ok (chain, event) => do
    report event
    d.dispatchWith chain request path

end Dispatcher

end Interception
