import Interception.Interceptor.Basic

/-!
# Reporting on requests

The logging interceptor reports every call it receives and changes nothing.
-/

namespace Interception.Interceptor

variable {σ : Type}

/-- The name under which a logging interceptor reports unless it has another. -/
def defaultLoggingName : String := "pathgate"

/-- The fields that every report of a logging interceptor has. -/
def loggedFields (name : String) (request : Request) : List (String × Json) :=
  [("interceptor", .str name), ("method", .str request.method), ("path", .str request.path)]

/-- The report on a completed request. -/
def completionEvent (name : String) (request : Request) (failure : Option Failure)
    (status : Status) : Event :=
  let fields := loggedFields name request ++ [("status", .int status.code)]
  match failure with
  | some failure => ⟨.warn, "request failed", fields ++ [("error", .str failure.text)]⟩
  | none => ⟨.debug, "request completed", fields⟩

def logging (name : String) : Interceptor σ where
  preHandle request _ := do
    report ⟨.debug, "pre-handle", loggedFields name request⟩
    return .ok true
  postHandle request _ := do
    let view ← Activity.look fun state => state.2.bind (·.viewName?)
    Activity.onFirst (report ⟨.debug, "post-handle",
      loggedFields name request ++ [("view", .str (Text.optional (view.map Text.quoted)))]⟩)
    return .ok ()
  afterCompletion request _ failure := do
    let status ← Activity.look fun x => x.response.status
    report (completionEvent name request failure status)
    return .ok ()

end Interception.Interceptor
