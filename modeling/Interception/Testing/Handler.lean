import Interception.Testing.Script

/-!
# Scripted handlers
-/

namespace Interception.Testing

/-- A handler acts upon the response, and then fails or gives its answer. -/
structure HandlerScript where
  actions : List ResponseAction
  failure : Option Failure
  answer : Option (ModelAndView Bench)
  /-- Whether the path of the request becomes an entry of the model. -/
  showsPath : Bool

namespace HandlerScript

/-- The answer to a request, if the handler does not fail. -/
def answerTo (s : HandlerScript) (request : Request) : Option (ModelAndView Bench) :=
  if s.showsPath then s.answer.map fun mav => mav.addObject "path" (.str request.path)
  else s.answer

/-- The handler itself; each call is counted. -/
def toHandler (s : HandlerScript) (request : Request) :
    Activity (Exchange Bench) (Except Failure (Option (ModelAndView Bench))) := do
  onBench (·.addHandled)
  let acted ← Activity.step fun x =>
    let (result, response) := ResponseAction.runAll s.actions x.response
    (result, { x with response })
  match acted, s.failure with
  | .error failure, _ => return .error failure
  | .ok (), some failure => return .error failure
  | .ok (), none => return .ok (s.answerTo request)

end HandlerScript

end Interception.Testing
