import Interception.Proofs.Observation
import Mathlib.Data.List.Forall2

/-!
# The calls of a chain

Interceptors are called in turn, up to and including the first that does not let the request go on.
What a chain does is observed for selected interceptors, each under its position in the registry.

The chain remembers how many interceptors let the request go on. Between two steps it is always
`Chain.after selected count`, except that a refusal completes them and leaves the chain without
memory. So the completion at the end of a request finds either all of them or none.
-/

namespace Interception

variable {σ : Type}

/-! ## Calls in turn -/

namespace Call

/-- Whether the step after the call may be taken. Nothing depends on how a completion ends. -/
def passed : Call σ → Bool
  | .preHandle _ _ _ (.ok proceed) => proceed
  | .handle _ _ (.ok _) => true
  | .postHandle _ _ _ _ (.ok ()) => true
  | .render _ _ _ (.ok ()) => true
  | .afterCompletion .. => true
  | _ => false

/-- The error that the request ends with because of the call. -/
def error? : Call σ → Option DispatchError
  | .preHandle _ _ _ (.error failure) => some (.interceptor failure)
  | .handle _ _ (.error failure) => some (.handler failure)
  | .postHandle _ _ _ _ (.error failure) => some (.interceptor failure)
  | .render _ _ _ (.error e) => some (.render e)
  | _ => none

/-- The position of the interceptor that is called, if it is one. -/
def position? : Call σ → Option Nat
  | .preHandle position .. => some position
  | .postHandle position .. => some position
  | .afterCompletion position .. => some position
  | _ => none

end Call

/-- How many calls passed before the first that did not. -/
def passes (calls : List (Call σ)) : Nat := (calls.takeWhile Call.passed).length

@[simp] theorem passes_cons_of_passed {call : Call σ} (h : call.passed = true)
    (calls : List (Call σ)) : passes (call :: calls) = passes calls + 1 := by
  simp [passes, h]

@[simp] theorem passes_cons_of_not_passed {call : Call σ} (h : call.passed = false)
    (calls : List (Call σ)) : passes (call :: calls) = 0 := by
  simp [passes, h]

/-- The error of the first call that has one. -/
def firstError (calls : List (Call σ)) : Option DispatchError := calls.findSome? Call.error?

@[simp] theorem firstError_nil : firstError ([] : List (Call σ)) = none := rfl

theorem firstError_append (calls more : List (Call σ)) :
    firstError (calls ++ more) = (firstError calls).or (firstError more) :=
  List.findSome?_append

/-- One call for each element in turn, up to and including the first that does not pass. -/
inductive InTurn {ι : Type} (made : ι → Call σ → Prop) : List ι → List (Call σ) → Prop where
  | done : InTurn made [] []
  | passed {i : ι} {rest : List ι} {call : Call σ} {calls : List (Call σ)} (own : made i call)
      (pass : call.passed = true) (turns : InTurn made rest calls) :
      InTurn made (i :: rest) (call :: calls)
  | stopped {i : ι} {rest : List ι} {call : Call σ} (own : made i call)
      (stop : call.passed = false) : InTurn made (i :: rest) [call]

namespace InTurn

variable {ι : Type} {made : ι → Call σ → Prop} {turns : List ι} {calls : List (Call σ)}

/-- Every call was made for one of the elements. -/
theorem exists_of_mem (h : InTurn made turns calls) {call : Call σ} (mem : call ∈ calls) :
    ∃ i ∈ turns, made i call := by
  induction h with
  | done => cases mem
  | @passed i rest first calls own _ _ ih =>
      obtain rfl | mem := List.mem_cons.mp mem
      · exact ⟨i, List.mem_cons_self, own⟩
      · obtain ⟨j, hj, own⟩ := ih mem
        exact ⟨j, List.mem_cons_of_mem i hj, own⟩
  | @stopped i rest first own _ =>
      obtain rfl := List.mem_singleton.mp mem
      exact ⟨i, List.mem_cons_self, own⟩

/-- One whose calls never pass ends the turns, wherever it stands. -/
theorem passes_lt (h : InTurn made turns calls) {i : ι} (mem : i ∈ turns)
    (refuses : ∀ call, made i call → call.passed = false) : passes calls < turns.length := by
  induction h with
  | done => cases mem
  | @passed j rest call calls own pass _ ih =>
      obtain rfl | mem := List.mem_cons.mp mem
      · rw [refuses call own] at pass
        cases pass
      · rw [passes_cons_of_passed pass, List.length_cons]
        have := ih mem
        omega
  | stopped _ stop =>
      rw [passes_cons_of_not_passed stop]
      exact Nat.succ_pos _

end InTurn

theorem exists_of_mem_forall₂ {ι : Type} {made : ι → Call σ → Prop} {turns : List ι}
    {calls : List (Call σ)} (h : List.Forall₂ made turns calls) {call : Call σ}
    (mem : call ∈ calls) : ∃ i ∈ turns, made i call := by
  induction h with
  | nil => cases mem
  | @cons i first turns calls own _ ih =>
      obtain rfl | mem := List.mem_cons.mp mem
      · exact ⟨i, List.mem_cons_self, own⟩
      · obtain ⟨j, hj, own⟩ := ih mem
        exact ⟨j, List.mem_cons_of_mem i hj, own⟩

/-! ## Interceptors with their positions -/

/-- An interceptor that refuses every request. -/
def Interceptor.refusing : Interceptor σ :=
  { Interceptor.passThrough with preHandle := fun _ _ => pure (.ok false) }

/-- An interceptor that was selected, with its position in the registry. -/
abbrev Placed (σ : Type) : Type := Interceptor σ × Nat

namespace Placed

/-- The interceptor under observation. -/
def observed (p : Placed σ) : Interceptor (Logged σ) := p.1.observed p.2

variable (request : Request) (handler : HandlerRef)

/-- A call of the interceptor before the handler. -/
def IsPreHandle (p : Placed σ) (call : Call σ) : Prop :=
  ∃ x, call = .preHandle p.2 request x (p.1.preHandle request handler x).result

/-- A call of the interceptor after the handler. -/
def IsPostHandle (p : Placed σ) (call : Call σ) : Prop :=
  ∃ x mav, call = .postHandle p.2 request x mav (p.1.postHandle request handler (x, mav)).result

/-- A call of the interceptor when the request is complete. -/
def IsAfterCompletion (failure : Option Failure) (p : Placed σ) (call : Call σ) : Prop :=
  ∃ x, call = .afterCompletion p.2 request failure x
    (p.1.afterCompletion request handler failure x).result

variable {request : Request} {handler : HandlerRef} {failure : Option Failure}
variable {p : Placed σ} {call : Call σ}

theorem IsPreHandle.position (h : p.IsPreHandle request handler call) :
    call.position? = some p.2 := by
  obtain ⟨x, rfl⟩ := h
  rfl

theorem IsPostHandle.position (h : p.IsPostHandle request handler call) :
    call.position? = some p.2 := by
  obtain ⟨x, mav, rfl⟩ := h
  rfl

theorem IsAfterCompletion.position (h : p.IsAfterCompletion request handler failure call) :
    call.position? = some p.2 := by
  obtain ⟨x, rfl⟩ := h
  rfl

end Placed

/-! ## Chains -/

namespace Chain

/-- The chain of selected interceptors after so many of them let the request go on. -/
def after (selected : List (Placed σ)) (count : Nat) : Chain σ where
  interceptors := selected.map Prod.fst
  passed := match count with
    | 0 => none
    | count + 1 => some count

/-- A chain of selected interceptors under observation. -/
def observedAs (selected : List (Placed σ)) (c : Chain σ) : Chain (Logged σ) :=
  ⟨selected.map Placed.observed, c.passed⟩

theorem due_after (selected : List (Placed σ)) (count : Nat) :
    (after selected count).due = (selected.take count).reverse.map Prod.fst := by
  cases count with
  | zero => rfl
  | succ count => simp [after, due]

theorem due_observedAs_after (selected : List (Placed σ)) (count : Nat) :
    ((after selected count).observedAs selected).due =
      (selected.take count).reverse.map Placed.observed := by
  cases count with
  | zero => rfl
  | succ count => simp [after, observedAs, due]

end Chain

/-! ## What is observed of a chain -/

namespace Observes

variable (request : Request) (handler : HandlerRef)

theorem report (event : Event) :
    Observes (σ := σ) .exchange id (report event) (report event) fun calls _ => calls = [] :=
  fun _ _ => ⟨[], rfl, rfl, by rw [List.append_nil]; rfl, rfl⟩

theorem preHandle (p : Placed σ) :
    Observes .exchange id (p.1.preHandle request handler) (p.observed.preHandle request handler)
      fun calls answer => ∃ x, calls = [.preHandle p.2 request x answer] ∧
        answer = (p.1.preHandle request handler x).result :=
  Observes.call fun x => ⟨x, rfl, rfl⟩

theorem postHandle (p : Placed σ) :
    Observes .answer id (p.1.postHandle request handler) (p.observed.postHandle request handler)
      fun calls answer => ∃ x mav, calls = [.postHandle p.2 request x mav answer] ∧
        answer = (p.1.postHandle request handler (x, mav)).result := by
  rw [Placed.observed, Interceptor.observed_postHandle]
  exact Observes.call fun s => ⟨s.1, s.2, rfl, rfl⟩

theorem afterCompletion (failure : Option Failure) (p : Placed σ) :
    Observes .exchange id (p.1.afterCompletion request handler failure)
      (p.observed.afterCompletion request handler failure)
      fun calls _ => ∃ call, calls = [call] ∧ p.IsAfterCompletion request handler failure call :=
  Observes.call fun x => ⟨_, rfl, x, rfl⟩

/-- All interceptors are completed, however the completion of others ends. -/
theorem completeAll (failure : Option Failure) (due : List (Placed σ)) :
    Observes .exchange id (Chain.completeAll request handler failure (due.map Prod.fst))
      (Chain.completeAll request handler failure (due.map Placed.observed))
      fun calls _ => List.Forall₂ (Placed.IsAfterCompletion request handler failure) due calls := by
  induction due with
  | nil => exact Observes.pure .nil
  | cons p due ih =>
      refine Observes.bind (Observes.afterCompletion request handler failure p) ?_
      rintro answer calls ⟨call, rfl, own⟩
      have later : ∀ calls, calls = [] → Observes .exchange id
          (Chain.completeAll request handler failure (due.map Prod.fst))
          (Chain.completeAll request handler failure (due.map Placed.observed))
          fun more _ => List.Forall₂ (Placed.IsAfterCompletion request handler failure) (p :: due)
            ([call] ++ (calls ++ more)) := by
        rintro _ rfl
        exact ih.mono fun more _ rest => .cons own rest
      cases answer with
      | ok => exact later [] rfl
      | error e => exact Observes.bind (Observes.report _) fun _ calls none => later calls none

/-- Completion reaches those that let the request go on, and the chain forgets them. -/
theorem complete (failure : Option Failure) (selected : List (Placed σ)) (count : Nat) :
    Observes .exchange (Chain.observedAs selected)
      ((Chain.after selected count).complete request handler failure)
      (((Chain.after selected count).observedAs selected).complete request handler failure)
      fun calls chain => chain = Chain.after selected 0 ∧
        List.Forall₂ (Placed.IsAfterCompletion request handler failure)
          (selected.take count).reverse calls := by
  unfold Chain.complete
  rw [Chain.due_after, Chain.due_observedAs_after]
  refine Observes.bind (Observes.completeAll request handler failure _) ?_
  intro _ calls completed
  refine Observes.pure ⟨rfl, ?_⟩
  rwa [List.append_nil]

end Observes

/-- How the calls before the handler end for a chain on which so many have been called already: the
answer, what the chain remembers then, and the completion that follows a refusal. -/
inductive Began (request : Request) (handler : HandlerRef) (selected : List (Placed σ))
    (count : Nat) (turns : List (Placed σ)) :
    List (Call σ) → Except Failure Bool × Chain σ → Prop where
  | passed {calls : List (Call σ)}
      (inTurn : InTurn (Placed.IsPreHandle request handler) turns calls)
      (all : passes calls = turns.length) (fine : firstError calls = none) :
      Began request handler selected count turns calls
        (.ok true, Chain.after selected (count + passes calls))
  | refused {calls completion : List (Call σ)}
      (inTurn : InTurn (Placed.IsPreHandle request handler) turns calls)
      (some : passes calls < turns.length) (fine : firstError calls = none)
      (completed : List.Forall₂ (Placed.IsAfterCompletion request handler none)
        (selected.take (count + passes calls)).reverse completion) :
      Began request handler selected count turns (calls ++ completion)
        (.ok false, Chain.after selected 0)
  | failed {calls : List (Call σ)} {failure : Failure}
      (inTurn : InTurn (Placed.IsPreHandle request handler) turns calls)
      (some : passes calls < turns.length)
      (found : firstError calls = Option.some (.interceptor failure)) :
      Began request handler selected count turns calls
        (.error failure, Chain.after selected (count + passes calls))

namespace Began

variable {request : Request} {handler : HandlerRef} {selected turns : List (Placed σ)}
variable {count : Nat} {p : Placed σ} {x : Exchange σ}

/-- An interceptor that lets the request go on comes before whatever follows. -/
theorem cons (own : (p.1.preHandle request handler x).result = .ok true) {more : List (Call σ)}
    {outcome : Except Failure Bool × Chain σ}
    (h : Began request handler selected (count + 1) turns more outcome) :
    Began request handler selected count (p :: turns)
      (.preHandle p.2 request x (.ok true) :: more) outcome := by
  have made : p.IsPreHandle request handler (.preHandle p.2 request x (.ok true)) :=
    ⟨x, by rw [own]⟩
  have shift : ∀ calls : List (Call σ), count + 1 + passes calls =
      count + passes (.preHandle p.2 request x (.ok true) :: calls) := by
    intro calls
    rw [passes_cons_of_passed rfl]
    omega
  cases h with
  | passed inTurn all fine =>
      rw [shift]
      refine .passed (.passed made rfl inTurn) ?_ fine
      rw [passes_cons_of_passed rfl, all, List.length_cons]
  | refused inTurn some fine completed =>
      rw [shift] at completed
      refine .refused (.passed made rfl inTurn) ?_ fine completed
      rw [passes_cons_of_passed rfl, List.length_cons]
      omega
  | failed inTurn some found =>
      rw [shift]
      refine .failed (.passed made rfl inTurn) ?_ found
      rw [passes_cons_of_passed rfl, List.length_cons]
      omega

end Began

namespace Observes

variable (request : Request) (handler : HandlerRef)

/-- The interceptors from a position on are called in turn, and the chain remembers how many let
the request go on. -/
theorem preHandleFrom (selected turns : List (Placed σ)) (count : Nat) :
    Observes .exchange (Prod.map id (Chain.observedAs selected))
      (Chain.preHandleFrom request handler (Chain.after selected count) count
        (turns.map Prod.fst))
      (Chain.preHandleFrom request handler ((Chain.after selected count).observedAs selected) count
        (turns.map Placed.observed))
      (Began request handler selected count turns) := by
  -- Every interceptor that lets the request go on adds one to what the chain remembers.
  induction turns generalizing count with
  | nil => exact Observes.pure (.passed .done rfl rfl)
  | cons p turns ih =>
      refine Observes.bind (Observes.preHandle request handler p) ?_
      rintro answer _ ⟨x, rfl, own⟩
      have made : p.IsPreHandle request handler (.preHandle p.2 request x answer) := by
        rw [own]
        exact ⟨x, rfl⟩
      match answer, own, made with
      | .error failure, own, made =>
          exact Observes.pure (.failed (.stopped made rfl) (Nat.succ_pos _) rfl)
      | .ok false, own, made =>
          refine Observes.bind (Observes.complete request handler none selected count) ?_
          rintro _ completion ⟨rfl, completed⟩
          refine Observes.pure ?_
          rw [List.append_nil]
          exact .refused (.stopped made rfl) (Nat.succ_pos _) rfl completed
      | .ok true, own, made =>
          exact (ih (count + 1)).mono fun more outcome began => began.cons own.symm

/-- The interceptors are called in turn, until one fails. -/
theorem postHandleAll (turns : List (Placed σ)) :
    Observes .answer id (Chain.postHandleAll request handler (turns.map Prod.fst))
      (Chain.postHandleAll request handler (turns.map Placed.observed))
      fun calls answer => InTurn (Placed.IsPostHandle request handler) turns calls ∧
        match answer with
        | .ok () => passes calls = turns.length ∧ firstError calls = none
        | .error failure => firstError calls = some (.interceptor failure) := by
  induction turns with
  | nil => exact Observes.pure ⟨.done, rfl, rfl⟩
  | cons p turns ih =>
      refine Observes.bind (Observes.postHandle request handler p) ?_
      rintro answer _ ⟨x, mav, rfl, own⟩
      have made : p.IsPostHandle request handler (.postHandle p.2 request x mav answer) := by
        rw [own]
        exact ⟨x, mav, rfl⟩
      match answer, made with
      | .error failure, made => exact Observes.pure ⟨.stopped made rfl, rfl⟩
      | .ok (), made =>
          refine ih.mono ?_
          rintro more answer ⟨inTurn, ending⟩
          refine ⟨.passed made rfl inTurn, ?_⟩
          match answer, ending with
          | .ok (), ⟨all, fine⟩ => exact ⟨congrArg (· + 1) all, fine⟩
          | .error failure, found => exact found

/-- After the handler a chain goes from its last interceptor to its first. -/
theorem postHandleChain (selected : List (Placed σ)) (count : Nat) :
    Observes .answer id ((Chain.after selected count).postHandle request handler)
      (((Chain.after selected count).observedAs selected).postHandle request handler)
      fun calls answer => InTurn (Placed.IsPostHandle request handler) selected.reverse calls ∧
        match answer with
        | .ok () => passes calls = selected.length ∧ firstError calls = none
        | .error failure => firstError calls = some (.interceptor failure) := by
  have turns := Observes.postHandleAll request handler selected.reverse
  rwa [List.map_reverse, List.map_reverse, List.length_reverse] at turns

end Observes

end Interception
