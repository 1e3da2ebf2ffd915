import Interception.View

/-!
# Interceptors

An interceptor is called at three points of a request: before the handler, where it may refuse the
request; after the handler, where it may change what the handler returned; and when the request is
complete, with the failure if there was one. Every call may take time, act upon the exchange, and
fail.
-/

namespace Interception

structure Interceptor (σ : Type) where
  /-- Whether the request may go on. -/
  preHandle : Request → HandlerRef → Activity (Exchange σ) (Except Failure Bool)
  /-- Also acts upon the model-and-view, if the handler returned one. -/
  postHandle : Request → HandlerRef →
    Activity (Exchange σ × Option (ModelAndView σ)) (Except Failure Unit)
  afterCompletion : Request → HandlerRef → Option Failure →
    Activity (Exchange σ) (Except Failure Unit)

namespace Interceptor

variable {σ : Type}

/-- The interceptor that lets everything pass and does nothing. -/
def passThrough : Interceptor σ where
  preHandle _ _ := pure (.ok true)
  postHandle _ _ := pure (.ok ())
  afterCompletion _ _ _ := pure (.ok ())

/-- Passes every call on, as a shared reference to an interceptor does. -/
def forward (inner : Interceptor σ) : Interceptor σ where
  preHandle request handler := inner.preHandle request handler
  postHandle request handler := inner.postHandle request handler
  afterCompletion request handler failure := inner.afterCompletion request handler failure

@[simp] theorem forward_eq (inner : Interceptor σ) : inner.forward = inner := rfl

end Interceptor

end Interception
