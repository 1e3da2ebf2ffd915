import Interception.Interceptor.Basic

/-!
# What test doubles write down

The doubles of this folder act upon a bench: logs that only grow. Interceptors share one log of
calls; web interceptors, views and scripts write under a number of their own.
-/

namespace Interception.Testing

inductive Phase where
  | preHandle
  | postHandle
  | afterCompletion
  deriving DecidableEq, Repr

namespace Phase

def name : Phase → String
  | .preHandle => "PreHandle"
  | .postHandle => "PostHandle"
  | .afterCompletion => "AfterCompletion"

end Phase

/-- A call that an interceptor received. -/
structure Call where
  interceptor : String
  phase : Phase
  method : String
  path : String
  handler : Option String
  /-- The names in the model, after the handler, if there was a model. -/
  modelKeys : Option (List String)
  /-- The text of the failure, on completion, if there was one. -/
  error : Option String
  deriving DecidableEq, Repr

structure Bench where
  /-- The calls that interceptors received. -/
  calls : List Call
  /-- The calls that web interceptors received, each with the interceptor's number. -/
  webCalls : List (Nat × Call)
  /-- The numbers of the scripts that gave an answer. -/
  answers : List Nat
  /-- The models that views rendered, each with the view's number. -/
  renders : List (Nat × Model)
  /-- How often the handler was called. -/
  handled : Nat

namespace Bench

def empty : Bench := ⟨[], [], [], [], 0⟩

def addCall (b : Bench) (call : Call) : Bench := { b with calls := b.calls ++ [call] }

def addWebCall (b : Bench) (number : Nat) (call : Call) : Bench :=
  { b with webCalls := b.webCalls ++ [(number, call)] }

def addAnswer (b : Bench) (number : Nat) : Bench := { b with answers := b.answers ++ [number] }

def addRender (b : Bench) (number : Nat) (model : Model) : Bench :=
  { b with renders := b.renders ++ [(number, model)] }

def addHandled (b : Bench) : Bench := { b with handled := b.handled + 1 }

/-- The calls that interceptors of a given name received. -/
def callsOf (b : Bench) (name : String) : List Call :=
  b.calls.filter fun call => call.interceptor == name

/-- The calls that a web interceptor received. -/
def webCallsOf (b : Bench) (number : Nat) : List Call :=
  (b.webCalls.filter fun entry => entry.1 == number).map (·.2)

/-- The models that a view rendered. -/
def rendersOf (b : Bench) (number : Nat) : List Model :=
  (b.renders.filter fun entry => entry.1 == number).map (·.2)

end Bench

/-- Changes the bench of an exchange. -/
def onBench (f : Bench → Bench) : Activity (Exchange Bench) Unit :=
  .change fun x => { x with world := f x.world }

end Interception.Testing
