import Interception.Event
import Interception.Activity
import Interception.Request
import Interception.Response

/-!
# Exchanges

The state that is threaded through the handling of one request: the response, whatever else
interceptors, handlers and views act upon, and the journal of what has been reported.
-/

namespace Interception

structure Exchange (σ : Type) where
  response : Response
  world : σ
  journal : List Event

namespace Exchange

variable {σ : Type}

/-- The exchange before anything has been done. -/
def start (world : σ) : Exchange σ := ⟨Response.fresh, world, []⟩

/-- Appends an event to the journal. -/
def report (x : Exchange σ) (event : Event) : Exchange σ :=
  { x with journal := x.journal ++ [event] }

def setStatus (x : Exchange σ) (status : Status) : Exchange σ :=
  { x with response := x.response.setStatus status }

@[simp] theorem report_response (x : Exchange σ) (e : Event) :
    (x.report e).response = x.response := rfl

@[simp] theorem report_world (x : Exchange σ) (e : Event) : (x.report e).world = x.world := rfl

end Exchange

/-- Reports an event as an activity. -/
def report {σ : Type} (event : Event) : Activity (Exchange σ) Unit :=
  .change fun x => x.report event

end Interception
