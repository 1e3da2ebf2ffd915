import Interception.Interceptor.Basic

/-!
# Interceptors that see no handler

A web interceptor is the narrow kind: it does not know the handler, it cannot refuse a request,
and of what the handler returned it sees only the model. `toInterceptor` widens it. Where the
model-and-view has been cleared there is no model to be seen, so that it stays cleared.
-/

namespace Interception

structure WebInterceptor (σ : Type) where
  preHandle : Request → Activity (Exchange σ) (Except Failure Unit)
  postHandle : Request → Activity (Exchange σ × Option Model) (Except Failure Unit)
  afterCompletion : Request → Option Failure → Activity (Exchange σ) (Except Failure Unit)

namespace WebInterceptor

variable {σ : Type}

/-- The web interceptor that does nothing. -/
def passThrough : WebInterceptor σ where
  preHandle _ := pure (.ok ())
  postHandle _ := pure (.ok ())
  afterCompletion _ _ := pure (.ok ())

/-- The model that may be seen. -/
def visibleModel (mav : Option (ModelAndView σ)) : Option Model :=
  (mav.filter fun m => !m.wasCleared).map (·.model)

/-- Puts a model that was seen back into its model-and-view. -/
def replaceModel (mav : Option (ModelAndView σ)) (model : Option Model) :
    Option (ModelAndView σ) :=
  mav.map fun m =>
    match model with
    | some model => if m.wasCleared then m else { m with model }
    | none => m

/-- The web interceptor as an interceptor. -/
def toInterceptor (web : WebInterceptor σ) : Interceptor σ where
  preHandle request _ := do
    match ← web.preHandle request with
    | .ok () => return .ok true
    | .error failure => return .error failure
  postHandle request _ := fun (x, mav) =>
    (web.postHandle request (x, visibleModel mav)).mapState fun (x, model) =>
      (x, replaceModel mav model)
  afterCompletion request _ failure := web.afterCompletion request failure

end WebInterceptor

end Interception
