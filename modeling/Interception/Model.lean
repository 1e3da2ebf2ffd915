import Interception.Json.Basic

/-!
# Models

A model is what a handler and interceptors hand to a view: JSON values by name.
-/

namespace Interception

abbrev Model := Dict Json

namespace Model

/-- The object with the model's entries. -/
def toJson (model : Model) : Json := Json.ofDict model

/-- Whether two models have the same names with equal values. -/
def same (a b : Model) : Bool := Json.sameFields a.entries b.entries

end Model

/-- Values that travel with a request. -/
abbrev Attributes := Dict Json

end Interception
