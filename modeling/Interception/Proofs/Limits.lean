import Interception.Proofs.Duration
import Interception.Proofs.Layers

/-!
# Limits within limits

An interceptor may have several limits on time around it. A limit that is reached further inside is
an ordinary failure for those around it, and a limit that is reached further outside stops whatever
is inside, the other limits with it. So the smallest limit decides, wherever it stands.

A call that is stopped has taken the pauses that were over by then, and ends in the pause that it
was in. What would have come after that pause is not done.
-/

namespace Interception

variable {σ τ α β : Type}

/-! ## Stopped runs -/

namespace Run

/-- How long some pauses take together. -/
def total : List (Nat × σ) → Nat
  | [] => 0
  | (d, _) :: pauses => d + total pauses

@[simp] theorem total_nil : total ([] : List (Nat × σ)) = 0 := rfl

@[simp] theorem total_cons (d : Nat) (s : σ) (pauses : List (Nat × σ)) :
    total ((d, s) :: pauses) = d + total pauses := rfl

theorem total_concat (before : List (Nat × σ)) (d : Nat) (s : σ) :
    total (before ++ [(d, s)]) = total before + d := by
  induction before with
  | nil => simp
  | cons pause before ih => rw [List.cons_append, total, total, ih, Nat.add_assoc]

theorem elapsed_eq_total (r : Run σ α) : r.elapsed = total r.pauses := by
  induction r with
  | done a s => rfl
  | pause d s rest ih => exact congrArg (d + ·) ih

@[simp] theorem elapsed_map (f : α → β) (r : Run σ α) : (r.map f).elapsed = r.elapsed := by
  rw [elapsed_eq_total, pauses_map, ← elapsed_eq_total]

/-- The run is in a pause when so much time has passed: the pauses before it are over by then, and
it is not. -/
def PausesAt (r : Run σ α) (time : Nat) (before : List (Nat × σ)) (on : σ) : Prop :=
  ∃ d after, r.pauses = before ++ (d, on) :: after ∧
    total before ≤ time ∧ time < total before + d

/-- A run that takes longer than the limit is stopped in the pause that it is in then. -/
theorem within_of_lt_elapsed {r : Run σ α} {limit : Nat} (h : limit < r.elapsed) :
    ∃ before on, r.PausesAt limit before on ∧
      (r.within limit).pauses = before ++ [(limit - total before, on)] ∧
      (r.within limit).result = none ∧ (r.within limit).state = on := by
  induction r generalizing limit with
  | done a s => exact absurd h (Nat.not_lt_zero limit)
  | pause d s rest ih =>
      rw [elapsed_pause] at h
      by_cases first : d ≤ limit
      · have later : limit - d < rest.elapsed := by omega
        obtain ⟨before, on, ⟨e, after, split, ended, lasts⟩, pauses, ending⟩ := ih later
        rw [within, if_pos first]
        refine ⟨(d, s) :: before, on, ⟨e, after, congrArg ((d, s) :: ·) split, ?_, ?_⟩, ?_, ending⟩
        · rw [total_cons]
          omega
        · rw [total_cons]
          omega
        · rw [total_cons, ← Nat.sub_sub]
          exact congrArg ((d, s) :: ·) pauses
      · have lasts : limit < total ([] : List (Nat × σ)) + d := by
          rw [total_nil]
          omega
        rw [within, if_neg first]
        exact ⟨[], s, ⟨d, rest.pauses, rfl, Nat.zero_le limit, lasts⟩, rfl, rfl, rfl⟩

/-- A run with a limit takes as long as without it, or as long as the limit is. -/
theorem elapsed_within (r : Run σ α) (limit : Nat) :
    (r.within limit).elapsed = min r.elapsed limit := by
  by_cases h : r.elapsed ≤ limit
  · rw [within_of_elapsed_le h, elapsed_map, Nat.min_eq_left h]
  · have late : limit < r.elapsed := Nat.lt_of_not_le h
    obtain ⟨before, on, ⟨_, _, _, ended, _⟩, pauses, _⟩ := within_of_lt_elapsed late
    rw [elapsed_eq_total, pauses, total_concat, Nat.min_eq_right (Nat.le_of_lt late)]
    omega

/-- A smaller limit further outside stops a run before the one inside can. -/
theorem within_map_within_of_lt {inner outer : Nat} (h : outer < inner) (f : Option α → β)
    (r : Run σ α) :
    ((r.within inner).map f).within outer =
      (r.within outer).map (Option.map fun a => f (some a)) := by
  induction r generalizing inner outer with
  | done a s => rfl
  | pause d s rest ih =>
      by_cases sooner : d ≤ outer
      · have inside : d ≤ inner := by omega
        have later : outer - d < inner - d := by omega
        simp only [within, sooner, inside, if_true, map, ih later]
      · -- Whether the limit inside would be reached in this pause makes no difference.
        by_cases inside : d ≤ inner
        · simp only [within, sooner, inside, if_true, if_false, map]
          rfl
        · have larger : ¬ inner ≤ outer := Nat.not_le.mpr h
          simp only [within, sooner, inside, larger, if_false, map]
          rfl

end Run

/-! ## Limited calls -/

namespace Interceptor

/-- Of two limits around a call the smaller one decides. -/
theorem limited_limited (inner outer : Nat) (call : Activity τ (Except Failure α)) :
    limited outer (limited inner call) = limited (min inner outer) call := by
  funext s
  by_cases h : inner ≤ outer
  · have inTime : (limited inner call s).elapsed ≤ outer := by
      rw [limited, Run.elapsed_map, Run.elapsed_within]
      exact Nat.le_trans (Nat.min_le_right _ _) h
    rw [limited_of_elapsed_le inTime, Nat.min_eq_left h]
  · have smaller : outer < inner := Nat.lt_of_not_le h
    rw [Nat.min_eq_right (Nat.le_of_lt smaller)]
    simp only [limited, Run.within_map_within_of_lt smaller, Run.map_map]
    congr 1
    funext answer
    cases answer <;> rfl

/-- A call keeps to a limit. In time it takes the course that it takes without the limit. Otherwise
it fails when the limit is reached, in the pause that it is in then. -/
structure KeepsTo (limit : Nat) (call limited : Activity τ (Except Failure α)) : Prop where
  in_time : ∀ s, (call s).elapsed ≤ limit → limited s = call s
  late : ∀ s, limit < (call s).elapsed →
    (limited s).result =
        .error ⟨"interceptor call timed out after " ++ Duration.text limit, []⟩ ∧
      (limited s).elapsed = limit ∧
      ∃ before on, (call s).PausesAt limit before on ∧
        (limited s).pauses = before ++ [(limit - Run.total before, on)] ∧ (limited s).state = on

theorem keepsTo_limited (limit : Nat) (call : Activity τ (Except Failure α)) :
    KeepsTo limit call (limited limit call) where
  in_time _ h := limited_of_elapsed_le h
  late s h := by
    obtain ⟨before, on, stopped, pauses, result, state⟩ := Run.within_of_lt_elapsed h
    refine ⟨?_, ?_, before, on, stopped, ?_, ?_⟩
    · rw [limited, Run.result_map, result]
      rfl
    · rw [limited, Run.elapsed_map, Run.elapsed_within, Nat.min_eq_right (Nat.le_of_lt h)]
    · rw [limited, Run.pauses_map, pauses]
    · rw [limited, Run.state_map, state]

/-! ## Limited interceptors -/

theorem timeout_timeout (inner outer : Nat) (i : Interceptor σ) :
    timeout outer (timeout inner i) = timeout (min inner outer) i := by
  simp only [timeout, limited_limited]

/-- The interceptor with limits around it, the first of them innermost. -/
def timeouts (limits : List Nat) (i : Interceptor σ) : Interceptor σ :=
  limits.foldl (fun i limit => timeout limit i) i

theorem timeouts_cons (first : Nat) (others : List Nat) (i : Interceptor σ) :
    timeouts (first :: others) i = timeout (others.foldl min first) i := by
  induction others generalizing first with
  | nil => rfl
  | cons second others ih =>
      calc timeouts (first :: second :: others) i
          = timeouts others (timeout second (timeout first i)) := rfl
        _ = timeouts (min first second :: others) i := by rw [timeout_timeout]; rfl
        _ = timeout (others.foldl min (min first second)) i := ih (min first second)

/-- Limits around an interceptor, in whatever order they are, are the smallest of them: every call
keeps to that one, and a call that is stopped fails with that one, which can be told from the text
that it fails with. -/
theorem timeouts_eq_timeout {limits : List Nat} {least : Nat} (own : least ∈ limits)
    (smallest : ∀ limit ∈ limits, least ≤ limit) (i : Interceptor σ) :
    timeouts limits i = timeout least i ∧
      (∀ request handler,
        KeepsTo least (i.preHandle request handler)
          ((timeouts limits i).preHandle request handler)) ∧
      (∀ request handler,
        KeepsTo least (i.postHandle request handler)
          ((timeouts limits i).postHandle request handler)) ∧
      (∀ request handler failure,
        KeepsTo least (i.afterCompletion request handler failure)
          ((timeouts limits i).afterCompletion request handler failure)) ∧
      ∀ limit, Duration.text limit = Duration.text least → limit = least := by
  have collapsed : timeouts limits i = timeout least i := by
    cases limits with
    | nil => cases own
    | cons first others =>
        have least? := List.min?_eq_some_iff.mpr ⟨own, smallest⟩
        rw [List.min?_cons', Option.some.injEq] at least?
        rw [timeouts_cons, least?]
  rw [collapsed]
  exact ⟨rfl, fun _ _ => keepsTo_limited _ _, fun _ _ => keepsTo_limited _ _,
    fun _ _ _ => keepsTo_limited _ _, fun _ => Duration.text_inj⟩

/-- Writes to the response before and after a pause. -/
def lingering (duration : Nat) : Interceptor Unit where
  preHandle _ _ := do
    Activity.change fun x => { x with response := x.response.write "begun".toUTF8 }
    Activity.wait duration
    Activity.change fun x => { x with response := x.response.write ", done".toUTF8 }
    return .ok true
  postHandle _ _ := do
    Activity.wait (duration / 2)
    Activity.change fun s => ({ s.1 with response := s.1.response.write ", after".toUTF8 }, s.2)
    return .ok ()
  afterCompletion _ _ _ := pure (.ok ())

theorem timeouts_eq_timeout_lingering :
    let i := timeouts [50, 20, 30] (lingering 40)
    let request : Request := ⟨"GET", "/", ∅⟩
    let x : Exchange Unit := .start ()
    let begun : Exchange Unit := { x with response := x.response.write "begun".toUTF8 }
    i = timeout 20 (lingering 40) ∧
      (i.preHandle request ⟨none⟩ x).result =
        .error ⟨"interceptor call timed out after 20ns", []⟩ ∧
      (i.preHandle request ⟨none⟩ x).elapsed = 20 ∧
      (i.preHandle request ⟨none⟩ x).state = begun ∧
      i.postHandle request ⟨none⟩ (x, none) =
        (lingering 40).postHandle request ⟨none⟩ (x, none) := by
  intro i request x begun
  have own : 20 ∈ [50, 20, 30] := by decide
  have smallest : ∀ limit ∈ [50, 20, 30], 20 ≤ limit := by decide
  obtain ⟨collapsed, before, after, _⟩ := timeouts_eq_timeout own smallest (lingering 40)
  have late : 20 < ((lingering 40).preHandle request ⟨none⟩ x).elapsed := by decide
  obtain ⟨result, elapsed, ended, on, ⟨d, rest, split, _⟩, _, state⟩ :=
    (before request ⟨none⟩).late x late
  have only : ended ++ (d, on) :: rest = [(40, begun)] := split.symm
  have stopped : on = begun := by
    have mem : (d, on) ∈ [(40, begun)] := only ▸ List.mem_append_right ended List.mem_cons_self
    exact (Prod.mk.inj (List.mem_singleton.mp mem)).2
  have inTime : ((lingering 40).postHandle request ⟨none⟩ (x, none)).elapsed ≤ 20 := by decide
  exact ⟨collapsed, result, elapsed, state.trans stopped,
    (after request ⟨none⟩).in_time (x, none) inTime⟩

end Interceptor

end Interception
