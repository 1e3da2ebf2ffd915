import Interception.Duration
import Interception.Interceptor.Basic

/-!
# Limits on time

A limit stops each call to an interceptor that takes longer. The call then fails, and what the
interceptor would have done later is not done.
-/

namespace Interception.Interceptor

variable {σ τ α : Type}

/-- What a call fails with that takes longer than `limit` nanoseconds. -/
def timedOut (limit : Nat) : Failure :=
  .ofText ("interceptor call timed out after " ++ Duration.text limit)

/-- A call that fails when it takes longer than `limit` nanoseconds. -/
def limited (limit : Nat) (call : Activity τ (Except Failure α)) : Activity τ (Except Failure α) :=
  fun s => ((call s).within limit).map fun
    | some result => result
    | none => .error (timedOut limit)

/-- The interceptor with a limit, in nanoseconds, on each call. -/
def timeout (limit : Nat) (inner : Interceptor σ) : Interceptor σ where
  preHandle request handler := limited limit (inner.preHandle request handler)
  postHandle request handler := limited limit (inner.postHandle request handler)
  afterCompletion request handler failure :=
    limited limit (inner.afterCompletion request handler failure)

end Interception.Interceptor
