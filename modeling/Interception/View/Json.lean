import Interception.Json.Printer
import Interception.View

/-!
# Views that write JSON

A JSON view writes the model as an object, together with attributes of its own and with the path
variables of the request; of several values for one name the model's counts first and the view's
own last. It may restrict the names, and may write the value alone where one name is left.

The request may choose the status and the content type by attributes. Everything that can fail
comes before the first change of the response.
-/

namespace Interception

/-- The attribute that holds the status of the response. -/
def responseStatusAttribute : String := "pathgate.view.responseStatus"

/-- The attribute that holds the variables of the path. -/
def pathVariablesAttribute : String := "pathgate.view.pathVariables"

/-- The attribute that holds the content type of the response. -/
def selectedContentTypeAttribute : String := "pathgate.view.selectedContentType"

/-- The path variables of a request, if they are an object. -/
def pathVariables (request : Request) : List (String × Json) :=
  ((request.attribute? pathVariablesAttribute).bind Json.fields?).getD []

/-- The attributes of a view, the path variables of the request, and the model, in the order in
which later values replace earlier ones. -/
def mergeOutputModel (own : Model) (request : Request) (model : Option Model) : Model :=
  let merged := own.insertAll (pathVariables request)
  match model with
  | some model => merged.merge model
  | none => merged

structure JsonView where
  contentType : String
  attributes : Model
  modelKeys : Option (List String)
  extractSingle : Bool
  prettyPrinted : Bool

namespace JsonView

/-- The content type of JSON. -/
def defaultContentType : String := "application/json"

def default : JsonView := ⟨defaultContentType, ∅, none, false, false⟩

instance : Inhabited JsonView := ⟨default⟩

/-- Takes keys out of a model, one after the other. A key that the model has not, or has no longer,
is passed over. -/
def takeKeys (model : Model) : List String → List (String × Json)
  | [] => []
  | key :: keys =>
    match model.remove key with
    | (some value, rest) => (key, value) :: takeKeys rest keys
    | (none, rest) => takeKeys rest keys

/-- Keeps what is taken out for the keys that the view is restricted to, if it is. -/
def filterModel (v : JsonView) (model : Model) : Model :=
  match v.modelKeys with
  | some keys => Dict.ofList (takeKeys model keys)
  | none => model

/-- The value that is written for a model: the first value that the model lists, if there is no
other and the view takes a single value out, and otherwise an object. -/
def document (v : JsonView) (model : Model) : Json :=
  if v.extractSingle && model.size == 1 then
    match model.pairs with
    | (_, value) :: _ => value
    | [] => .null
  else model.toJson

/-- The text that is written for a request and a model. -/
def bodyText (v : JsonView) (request : Request) (model : Option Model) : String :=
  let document := v.document (v.filterModel (mergeOutputModel v.attributes request model))
  if v.prettyPrinted then document.pretty else document.compact

/-- The status that a request asks for, if it asks for one. -/
def requestedStatus (request : Request) : Except RenderError (Option Status) :=
  match request.attribute? responseStatusAttribute with
  | none => .ok none
  | some value =>
    match value.nat?.bind Status.ofNat? with
    | some status => .ok (some status)
    | none => .error (.ofMessage ("invalid response status " ++ value.compact))

/-- The content type that is set: the one that the request selects, or else the view's own. -/
def chosenContentType (v : JsonView) (request : Request) : String :=
  ((request.attribute? selectedContentTypeAttribute).bind Json.str?).getD v.contentType

/-- Writes to a response. -/
def renderTo (v : JsonView) (model : Option Model) (request : Request) (response : Response) :
    Except RenderError Unit × Response :=
  match requestedStatus request with
  | .error e => (.error e, response)
  | .ok status =>
    let body := v.bodyText request model
    match response.setContentType (v.chosenContentType request) with
    | (.error failure, response) =>
      (.error ⟨"cannot set content type", some failure⟩, response)
    | (.ok (), response) =>
      let response := match status with
        | some status => response.setStatus status
        | none => response
      (.ok (), response.write body.toUTF8)

def toView {σ : Type} (v : JsonView) : View σ where
  contentType := some v.contentType
  render model request x :=
    let (result, response) := v.renderTo model request x.response
    (result, { x with response })

end JsonView

end Interception
