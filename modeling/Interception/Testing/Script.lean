import Interception.Testing.Recorder

/-!
# Scripted interceptors

A script lists what an interceptor does in each phase: after writing the call down it waits, acts
upon the response, acts upon the model-and-view, and gives an answer. Before the handler there is
an answer for each call, and the last one is given again and again.
-/

namespace Interception.Testing

/-- An action upon a response. -/
inductive ResponseAction where
  | status (code : Option Nat)
  | contentType (text : String)
  | write (text : String)
  deriving DecidableEq, Repr

namespace ResponseAction

/-- What setting a status fails with that is no status. -/
def invalidStatus : Failure := .ofText "invalid status code"

def run : ResponseAction → Response → Except Failure Unit × Response
  | .status code, r =>
    match code.bind Status.ofNat? with
    | some s => (.ok (), r.setStatus s)
    | none => (.error invalidStatus, r)
  | .contentType text, r => r.setContentType text
  | .write text, r => (.ok (), r.write text.toUTF8)

/-- Runs actions until one fails. -/
def runAll : List ResponseAction → Response → Except Failure Unit × Response
  | [], r => (.ok (), r)
  | action :: actions, r =>
    match action.run r with
    | (.ok (), r) => runAll actions r
    | (.error failure, r) => (.error failure, r)

end ResponseAction

/-- What a scripted interceptor does in one phase, beside its answer. -/
structure Scene where
  /-- In nanoseconds; without a delay there is no pause. -/
  delay : Nat
  onResponse : List ResponseAction
  onModel : List (ModelAction Bench)

structure Script where
  /-- The number under which answers are counted. -/
  number : Nat
  name : String
  before : Scene
  answers : List (Except Failure Bool)
  after : Scene
  afterFailure : Option Failure
  completion : Scene
  completionFailure : Option Failure

namespace Scene

/-- Waits, if there is a delay, and acts upon the response. -/
def play (scene : Scene) : Activity (Exchange Bench) (Except Failure Unit) := do
  if scene.delay ≠ 0 then Activity.wait scene.delay
  Activity.step fun x =>
    let (result, response) := ResponseAction.runAll scene.onResponse x.response
    (result, { x with response })

end Scene

namespace Script

/-- The answer to the call with a given number. -/
def answerTo (s : Script) (count : Nat) : Except Failure Bool :=
  (s.answers[count]? <|> s.answers.getLast?).getD (.ok true)

def result (failure : Option Failure) : Except Failure Unit :=
  match failure with
  | some failure => .error failure
  | none => .ok ()

def toInterceptor (s : Script) : Interceptor Bench where
  preHandle request _ := do
    onBench (·.addCall (callTo s.name .preHandle request none none none))
    match ← s.before.play with
    | .error failure => return .error failure
    | .ok () =>
      let count ← Activity.look fun x => x.world.answers.count s.number
      onBench (·.addAnswer s.number)
      return s.answerTo count
  postHandle request _ := do
    let keys ← Activity.look fun state => state.2.map (·.model.keys)
    Activity.onFirst (onBench (·.addCall (callTo s.name .postHandle request none keys none)))
    match ← Activity.onFirst s.after.play with
    | .error failure => return .error failure
    | .ok () =>
      Activity.change fun (x, mav) => (x, mav.map (ModelAction.runAll s.after.onModel))
      return result s.afterFailure
  afterCompletion request _ failure := do
    onBench (·.addCall (callTo s.name .afterCompletion request none none failure))
    match ← s.completion.play with
    | .error failure => return .error failure
    | .ok () => return result s.completionFailure

end Script

end Interception.Testing
