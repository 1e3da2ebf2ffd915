import Interception.Activity
import Mathlib.Data.List.Basic

/-!
# What there is to know about a run

A run is determined by three things: its pauses, its result and its final state. What the
operations on runs do is said for each of the three, so that two runs can be compared without an
induction on either.
-/

namespace Interception.Run

variable {σ τ α β : Type}

/-- The pauses of a run, each with the state during it. -/
def pauses : Run σ α → List (Nat × σ)
  | done _ _ => []
  | pause d s rest => (d, s) :: rest.pauses

theorem ext {r r' : Run σ α} (pauses : r.pauses = r'.pauses) (result : r.result = r'.result)
    (state : r.state = r'.state) : r = r' := by
  induction r generalizing r' with
  | done a s =>
      cases r' with
      | done a' s' => exact congrArg₂ done result state
      | pause => cases pauses
  | pause d s rest ih =>
      cases r' with
      | done => cases pauses
      | pause d' s' rest' =>
          obtain ⟨head, tail⟩ := List.cons.inj pauses
          obtain ⟨rfl, rfl⟩ := Prod.mk.inj head
          exact congrArg (pause d s) (ih tail result state)

@[simp] theorem pauses_done (a : α) (s : σ) : (done a s).pauses = [] := rfl

@[simp] theorem result_done (a : α) (s : σ) : (done a s).result = a := rfl

@[simp] theorem state_done (a : α) (s : σ) : (done a s).state = s := rfl

@[simp] theorem pauses_bind (r : Run σ α) (f : α → σ → Run σ β) :
    (r.bind f).pauses = r.pauses ++ (f r.result r.state).pauses := by
  induction r with
  | done => rfl
  | pause d s rest ih => exact congrArg ((d, s) :: ·) ih

@[simp] theorem result_bind (r : Run σ α) (f : α → σ → Run σ β) :
    (r.bind f).result = (f r.result r.state).result := by
  induction r with
  | done => rfl
  | pause d s rest ih => exact ih

@[simp] theorem state_bind (r : Run σ α) (f : α → σ → Run σ β) :
    (r.bind f).state = (f r.result r.state).state := by
  induction r with
  | done => rfl
  | pause d s rest ih => exact ih

@[simp] theorem pauses_map (f : α → β) (r : Run σ α) : (r.map f).pauses = r.pauses := by
  induction r with
  | done => rfl
  | pause d s rest ih => exact congrArg ((d, s) :: ·) ih

@[simp] theorem result_map (f : α → β) (r : Run σ α) : (r.map f).result = f r.result := by
  induction r with
  | done => rfl
  | pause d s rest ih => exact ih

@[simp] theorem state_map (f : α → β) (r : Run σ α) : (r.map f).state = r.state := by
  induction r with
  | done => rfl
  | pause d s rest ih => exact ih

theorem bind_done_eq_map (f : α → β) (r : Run σ α) :
    (r.bind fun a s => done (f a) s) = r.map f :=
  ext (by simp) (by simp) (by simp)

@[simp] theorem pauses_mapState (f : σ → τ) (r : Run σ α) :
    (r.mapState f).pauses = r.pauses.map fun (d, s) => (d, f s) := by
  induction r with
  | done => rfl
  | pause d s rest ih => exact congrArg ((d, f s) :: ·) ih

@[simp] theorem result_mapState (f : σ → τ) (r : Run σ α) : (r.mapState f).result = r.result := by
  induction r with
  | done => rfl
  | pause d s rest ih => exact ih

@[simp] theorem state_mapState (f : σ → τ) (r : Run σ α) :
    (r.mapState f).state = f r.state := by
  induction r with
  | done => rfl
  | pause d s rest ih => exact ih

@[simp] theorem pauses_withPart (r : Run (σ × τ) α) :
    r.withPart.pauses = r.pauses.map fun (d, s) => (d, s.1) := by
  induction r with
  | done => rfl
  | pause d s rest ih => exact congrArg ((d, s.1) :: ·) ih

@[simp] theorem result_withPart (r : Run (σ × τ) α) :
    r.withPart.result = (r.result, r.state.2) := by
  induction r with
  | done => rfl
  | pause d s rest ih => exact ih

@[simp] theorem state_withPart (r : Run (σ × τ) α) : r.withPart.state = r.state.1 := by
  induction r with
  | done => rfl
  | pause d s rest ih => exact ih

end Interception.Run
