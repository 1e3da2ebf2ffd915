import Interception.Interceptor.Basic

/-!
# Chains of interceptors

A chain holds the interceptors of one request. Before the handler they are called in order, until
one fails or refuses; after it in reverse order, until one fails. When the request is complete,
those that let it go on are called in reverse order, all of them even if some fail, and only once:
the chain remembers the last one that let the request go on, and completion forgets it.
-/

namespace Interception

structure Chain (σ : Type) where
  interceptors : List (Interceptor σ)
  /-- The position of the last interceptor that let the request go on and was not completed. -/
  passed : Option Nat

namespace Chain

variable {σ : Type}

def ofList (interceptors : List (Interceptor σ)) : Chain σ := ⟨interceptors, none⟩

def push (c : Chain σ) (interceptor : Interceptor σ) : Chain σ :=
  { c with interceptors := c.interceptors ++ [interceptor] }

/-- The report on an interceptor that failed when the request was complete. -/
def completionFailed (request : Request) (failure : Failure) : Event :=
  ⟨.error, "after-completion failed",
    [("error", .str failure.text), ("method", .str request.method), ("path", .str request.path)]⟩

/-- Completes interceptors in the given order. -/
def completeAll (request : Request) (handler : HandlerRef) (failure : Option Failure) :
    List (Interceptor σ) → Activity (Exchange σ) Unit
  | [] => pure ()
  | interceptor :: others => do
    match ← interceptor.afterCompletion request handler failure with
    | .ok () => pure ()
    | .error e => report (completionFailed request e)
    completeAll request handler failure others

/-- The interceptors to be completed, in the order in which they are. -/
def due (c : Chain σ) : List (Interceptor σ) :=
  match c.passed with
  | some last => (c.interceptors.take (last + 1)).reverse
  | none => []

/-- Completes the interceptors that let the request go on. -/
def complete (c : Chain σ) (request : Request) (handler : HandlerRef) (failure : Option Failure) :
    Activity (Exchange σ) (Chain σ) := do
  completeAll request handler failure c.due
  return { c with passed := none }

/-- Calls the interceptors from a position on before the handler. A refusal completes at once the
ones that let the request go on. -/
def preHandleFrom (request : Request) (handler : HandlerRef) (c : Chain σ) (position : Nat) :
    List (Interceptor σ) → Activity (Exchange σ) (Except Failure Bool × Chain σ)
  | [] => return (.ok true, c)
  | interceptor :: others => do
    match ← interceptor.preHandle request handler with
    | .error failure => return (.error failure, c)
    | .ok false => return (.ok false, ← c.complete request handler none)
    | .ok true =>
      preHandleFrom request handler { c with passed := some position } (position + 1) others

/-- Calls the interceptors before the handler: whether the request may go on, or what failed. -/
def preHandle (c : Chain σ) (request : Request) (handler : HandlerRef) :
    Activity (Exchange σ) (Except Failure Bool × Chain σ) :=
  preHandleFrom request handler c 0 c.interceptors

/-- Calls interceptors after the handler, in the given order, until one fails. -/
def postHandleAll (request : Request) (handler : HandlerRef) :
    List (Interceptor σ) →
      Activity (Exchange σ × Option (ModelAndView σ)) (Except Failure Unit)
  | [] => return .ok ()
  | interceptor :: others => do
    match ← interceptor.postHandle request handler with
    | .error failure => return .error failure
    | .ok () => postHandleAll request handler others

/-- Calls the interceptors after the handler, the last one first. -/
def postHandle (c : Chain σ) (request : Request) (handler : HandlerRef) :
    Activity (Exchange σ × Option (ModelAndView σ)) (Except Failure Unit) :=
  postHandleAll request handler c.interceptors.reverse

/-- The chain for people. -/
def description (c : Chain σ) : String :=
  "HandlerExecutionChain \x7b interceptors: " ++ toString c.interceptors.length ++
    ", interceptor_index: " ++ Text.optional (c.passed.map toString) ++ " \x7d"

end Chain

end Interception
