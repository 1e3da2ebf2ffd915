import Interception.Exchange
import Interception.Text.Quoted

/-!
# Views, and models with views

A view writes a model into the response. A handler names a view or hands over one that is already
resolved, together with the model and possibly a status.

A model-and-view may be cleared by an interceptor that has answered the request itself. It counts
as cleared as long as nothing has been put into it since.
-/

namespace Interception

/-- A view writes a model to a response; it may have a content type of its own. -/
structure View (σ : Type) where
  contentType : Option String
  render : Option Model → Request → Exchange σ → Except RenderError Unit × Exchange σ

/-- A view by its name, or the view itself. -/
inductive ViewRef (σ : Type) where
  | named (name : String)
  | resolved (view : View σ)

namespace ViewRef

variable {σ : Type}

/-- The reference for people: the name, or the content type of the view. -/
def description : ViewRef σ → String
  | .named name => "Name(" ++ Text.quoted name ++ ")"
  | .resolved view => "Resolved(" ++ Text.optional (view.contentType.map Text.quoted) ++ ")"

end ViewRef

structure ModelAndView (σ : Type) where
  view : Option (ViewRef σ)
  model : Model
  status : Option Status
  cleared : Bool

namespace ModelAndView

variable {σ : Type}

def empty : ModelAndView σ := ⟨none, ∅, none, false⟩

def viewName? (m : ModelAndView σ) : Option String :=
  match m.view with
  | some (.named name) => some name
  | _ => none

def setView (m : ModelAndView σ) (view : ViewRef σ) : ModelAndView σ := { m with view := some view }

def setStatus (m : ModelAndView σ) (status : Status) : ModelAndView σ :=
  { m with status := some status }

def addObject (m : ModelAndView σ) (name : String) (value : Json) : ModelAndView σ :=
  { m with model := m.model.insert name value }

/-- Removes the view and the model. The status stays. -/
def clear (m : ModelAndView σ) : ModelAndView σ :=
  { m with view := none, model := ∅, cleared := true }

/-- Whether there is neither a view nor a model. -/
def isEmpty (m : ModelAndView σ) : Bool := m.view.isNone && m.model.isEmpty

/-- Whether it was cleared and nothing has been put into it since. -/
def wasCleared (m : ModelAndView σ) : Bool := m.cleared && m.isEmpty

@[simp] theorem wasCleared_clear (m : ModelAndView σ) : m.clear.wasCleared = true := rfl

@[simp] theorem clear_status (m : ModelAndView σ) : m.clear.status = m.status := rfl

end ModelAndView

/-- An action upon a model-and-view. -/
inductive ModelAction (σ : Type) where
  | add (name : String) (value : Json)
  | remove (name : String)
  | setView (view : ViewRef σ)
  | status (code : Option Nat)
  | clear

namespace ModelAction

variable {σ : Type}

/-- A status that is none is ignored. -/
def run : ModelAction σ → ModelAndView σ → ModelAndView σ
  | .add name value, m => m.addObject name value
  | .remove name, m => { m with model := m.model.erase name }
  | .setView view, m => m.setView view
  | .status code, m =>
    match code.bind Status.ofNat? with
    | some s => m.setStatus s
    | none => m
  | .clear, m => m.clear

def runAll (actions : List (ModelAction σ)) (m : ModelAndView σ) : ModelAndView σ :=
  actions.foldl (fun m action => action.run m) m

end ModelAction

/-- Views by name. -/
abbrev ViewRegistry (σ : Type) := Dict (View σ)

namespace ViewRegistry

variable {σ : Type}

/-- The view that a name stands for. -/
def resolveViewName (registry : ViewRegistry σ) (name : String) : Option (View σ) :=
  registry.get? name

/-- The registry for people: the names in order. -/
def description (registry : ViewRegistry σ) : String :=
  "ViewRegistry \x7b views: " ++ Text.quotedList registry.keys ++ " \x7d"

end ViewRegistry

/-- A registry that is being built: the views that have been registered so far. -/
structure ViewRegistryBuilder (σ : Type) where
  views : Dict (View σ)

namespace ViewRegistryBuilder

variable {σ : Type}

/-- No views yet. -/
def empty : ViewRegistryBuilder σ := ⟨∅⟩

/-- Registers a view. It replaces one that was registered under the same name. -/
def register (builder : ViewRegistryBuilder σ) (name : String) (view : View σ) :
    ViewRegistryBuilder σ := ⟨builder.views.insert name view⟩

/-- Registers views one after the other. -/
def registerAll (builder : ViewRegistryBuilder σ) (views : List (String × View σ)) :
    ViewRegistryBuilder σ :=
  views.foldl (fun builder entry => builder.register entry.1 entry.2) builder

def build (builder : ViewRegistryBuilder σ) : ViewRegistry σ := builder.views

end ViewRegistryBuilder

end Interception
