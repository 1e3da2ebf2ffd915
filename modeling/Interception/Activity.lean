/-!
# Activities that take time

An activity changes a state and gives a result, and it may pause in between. Its run from a given
state is known in full: the pauses, each with the state during the pause, and in the end the result
with the final state. Nothing else happens while an activity pauses, so the state after a pause is
the state before it.

`within limit p` is `p` as long as its pauses do not exceed the limit in total. Otherwise it ends
when the limit is reached, and what `p` would have done after that is not done.
-/

namespace Interception

/-- The run of an activity: pauses, and a result with the final state. -/
inductive Run (σ α : Type) where
  | done (result : α) (state : σ)
  | pause (duration : Nat) (state : σ) (rest : Run σ α)

namespace Run

variable {σ τ α β : Type}

def result : Run σ α → α
  | done a _ => a
  | pause _ _ rest => rest.result

/-- The final state. -/
def state : Run σ α → σ
  | done _ s => s
  | pause _ _ rest => rest.state

/-- How long the run takes. -/
def elapsed : Run σ α → Nat
  | done _ _ => 0
  | pause d _ rest => d + rest.elapsed

/-- Continues a run from its result and its final state. -/
def bind : Run σ α → (α → σ → Run σ β) → Run σ β
  | done a s, f => f a s
  | pause d s rest, f => pause d s (rest.bind f)

/-- The same run with other results. -/
def map (f : α → β) : Run σ α → Run σ β
  | done a s => done (f a) s
  | pause d s rest => pause d s (rest.map f)

/-- Stops a run that pauses for longer than the limit: it then has no result and ends with the
state of the pause that was cut short. -/
def within (limit : Nat) : Run σ α → Run σ (Option α)
  | done a s => done (some a) s
  | pause d s rest =>
    if d ≤ limit then pause d s (rest.within (limit - d)) else pause limit s (done none s)

/-- A run on a state with a part of its own, which is not seen from outside and is a result. -/
def withPart : Run (σ × τ) α → Run σ (α × τ)
  | done a (s, t) => done (a, t) s
  | pause d (s, _) rest => pause d s rest.withPart

/-- The same run on other states. -/
def mapState (f : σ → τ) : Run σ α → Run τ α
  | done a s => done a (f s)
  | pause d s rest => pause d (f s) (rest.mapState f)

@[simp] theorem bind_done (a : α) (s : σ) (f : α → σ → Run σ β) : (done a s).bind f = f a s := rfl

@[simp] theorem bind_pause (d : Nat) (s : σ) (rest : Run σ α) (f : α → σ → Run σ β) :
    (pause d s rest).bind f = pause d s (rest.bind f) := rfl

theorem bind_done_right (r : Run σ α) : r.bind done = r := by
  induction r with
  | done => rfl
  | pause d s rest ih => rw [bind, ih]

theorem bind_assoc {γ : Type} (r : Run σ α) (f : α → σ → Run σ β) (g : β → σ → Run σ γ) :
    (r.bind f).bind g = r.bind fun a s => (f a s).bind g := by
  induction r with
  | done => rfl
  | pause d s rest ih => simp only [bind_pause, ih]

end Run

/-- An activity sends a state to its run from there. -/
def Activity (σ α : Type) : Type := σ → Run σ α

namespace Activity

variable {σ τ α β : Type}

instance : Monad (Activity σ) where
  pure a := fun s => .done a s
  bind p f := fun s => (p s).bind fun a s => f a s

theorem pure_apply (a : α) (s : σ) : (pure a : Activity σ α) s = .done a s := rfl

theorem bind_apply (p : Activity σ α) (f : α → Activity σ β) (s : σ) :
    (p >>= f) s = (p s).bind fun a s => f a s := rfl

instance : LawfulMonad (Activity σ) :=
  LawfulMonad.mk' (Activity σ)
    (fun p => funext fun s => Run.bind_done_right (p s))
    (fun _ _ => rfl)
    (fun p f g => funext fun s => Run.bind_assoc (p s) (fun a s => f a s) fun b s => g b s)

/-- An activity without a pause. -/
def step (f : σ → α × σ) : Activity σ α := fun s => let (a, s) := f s; .done a s

/-- Looks at the state. -/
def look (f : σ → α) : Activity σ α := fun s => .done (f s) s

/-- Changes the state. -/
def change (f : σ → σ) : Activity σ Unit := fun s => .done () (f s)

/-- Pauses. -/
def wait (duration : Nat) : Activity σ Unit := fun s => .pause duration s (.done () s)

/-- The activity, stopped without a result when its pauses exceed the limit. -/
def within (limit : Nat) (p : Activity σ α) : Activity σ (Option α) := fun s => (p s).within limit

/-- An activity on a state with a part of its own, from a first value of the part to its last. -/
def withPart (part : τ) (p : Activity (σ × τ) α) : Activity σ (α × τ) := fun s =>
  (p (s, part)).withPart

/-- An activity on the first part of a state. -/
def onFirst (p : Activity σ α) : Activity (σ × τ) α := fun (s, t) => (p s).mapState (·, t)

end Activity

end Interception
