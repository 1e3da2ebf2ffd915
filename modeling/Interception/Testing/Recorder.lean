import Interception.Interceptor.Web
import Interception.Testing.Bench

/-!
# Interceptors that record their calls

A recorder writes down every call and lets it pass, or refuses every request. It may fail in one
of its three phases, after writing the call down.
-/

namespace Interception.Testing

/-- What a recorder fails with in a phase. -/
def failedDuring (name : String) (phase : Phase) : Failure :=
  .ofText (name ++ " failed during " ++ phase.name)

/-- The result of a recorder's call. -/
def outcome (name : String) (failOn : Option Phase) (phase : Phase) : Except Failure Unit :=
  if failOn = some phase then .error (failedDuring name phase) else .ok ()

/-- A call to an interceptor, as it is written down. -/
def callTo (name : String) (phase : Phase) (request : Request) (handler : Option String)
    (modelKeys : Option (List String)) (error : Option Failure) : Call :=
  ⟨name, phase, request.method, request.path, handler, modelKeys, error.map (·.text)⟩

/-- A recorder on the common log. -/
def recorder (name : String) (answer : Bool) (failOn : Option Phase) : Interceptor Bench where
  preHandle request handler := do
    onBench (·.addCall (callTo name .preHandle request handler.label none none))
    return (outcome name failOn .preHandle).map fun () => answer
  postHandle request handler := do
    let keys ← Activity.look fun state => state.2.map (·.model.keys)
    Activity.onFirst
      (onBench (·.addCall (callTo name .postHandle request handler.label keys none)))
    return outcome name failOn .postHandle
  afterCompletion request handler failure := do
    onBench (·.addCall (callTo name .afterCompletion request handler.label none failure))
    return outcome name failOn .afterCompletion

/-- A web interceptor with a log of its own, under a number. It may put an entry into every model
that it sees; the names are written down as they were before that. -/
def webRecorder (number : Nat) (name : String) (entry : Option (String × Json))
    (failOn : Option Phase) : WebInterceptor Bench where
  preHandle request := do
    onBench (·.addWebCall number (callTo name .preHandle request none none none))
    return outcome name failOn .preHandle
  postHandle request := do
    let keys ← Activity.look fun state => state.2.map (·.keys)
    Activity.change fun (x, model) =>
      (x, model.map fun m => entry.elim m fun e => m.insert e.1 e.2)
    Activity.onFirst
      (onBench (·.addWebCall number (callTo name .postHandle request none keys none)))
    return outcome name failOn .postHandle
  afterCompletion request failure := do
    onBench (·.addWebCall number (callTo name .afterCompletion request none none failure))
    return outcome name failOn .afterCompletion

end Interception.Testing
