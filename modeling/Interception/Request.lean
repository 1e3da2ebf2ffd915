import Interception.Http.Target
import Interception.Model

/-!
# Requests

What interceptors and views see of a request: its method, its path as it was sent, and attributes.
-/

namespace Interception

structure Request where
  method : String
  path : String
  attributes : Attributes

namespace Request

/-- The request with a given method and target, if they are a method and a target. -/
def build? (method target : String) (attributes : Attributes) : Option Request :=
  if Method.isMethod method then (Target.path? target).map fun path => ⟨method, path, attributes⟩
  else none

def attribute? (request : Request) (name : String) : Option Json := request.attributes.get? name

end Request

/-- What handles a request, as interceptors see it: it may have a label. -/
structure HandlerRef where
  label : Option String
  deriving DecidableEq, Repr

end Interception
