import Interception.PatternError

/-!
# Failures

A failure is what an interceptor, a handler or a view raises: a text, and the texts of what caused
it, the nearest cause first. A request fails with an error that tells which step failed and holds
the failure as it was raised.
-/

namespace Interception

structure Failure where
  text : String
  causes : List String
  deriving DecidableEq, Repr

namespace Failure

/-- A failure without a cause. -/
def ofText (text : String) : Failure := ⟨text, []⟩

/-- The failure's own text and those of its causes. -/
def chain (f : Failure) : List String := f.text :: f.causes

end Failure

/-- Why a view could not be rendered. -/
structure RenderError where
  message : String
  source : Option Failure
  deriving DecidableEq, Repr

namespace RenderError

def ofMessage (message : String) : RenderError := ⟨message, none⟩

/-- The texts of the causes. -/
def causes (e : RenderError) : List String :=
  match e.source with
  | some source => source.chain
  | none => []

end RenderError

/-- Why a request failed: in the selection of interceptors, in one of them, in the handler, or in
the view. -/
inductive DispatchError where
  | pattern (e : PatternError)
  | interceptor (f : Failure)
  | handler (f : Failure)
  | render (e : RenderError)
  | unresolvedView (name : String)
  deriving DecidableEq, Repr

namespace DispatchError

def message : DispatchError → String
  | .pattern e => "pattern error: " ++ e.message
  | .interceptor _ => "interceptor error"
  | .handler _ => "handler error"
  | .render e => "render error: " ++ e.message
  | .unresolvedView name => "could not resolve view with name `" ++ name ++ "`"

/-- The texts of the causes, the nearest first. -/
def causes : DispatchError → List String
  | .pattern e => [e.message]
  | .interceptor f | .handler f => f.chain
  | .render e => e.message :: e.causes
  | .unresolvedView _ => []

/-- The error as it is shown to interceptors. -/
def toFailure (e : DispatchError) : Failure := ⟨e.message, e.causes⟩

@[simp] theorem toFailure_text (e : DispatchError) : e.toFailure.text = e.message := rfl

@[simp] theorem toFailure_causes (e : DispatchError) : e.toFailure.causes = e.causes := rfl

end DispatchError

end Interception
