import Interception.Proofs.History

/-!
# Uses of a chain

A chain is used by its owner: interceptors are added, they are called before and after the handler,
and completion is asked for, in any order and any number of times. Under observation every use
shows as episodes, which make up the history of the chain.

Between two uses the index that a chain remembers is what its history owes. A pass sets it with its
first success, so that a pass without success leaves what an earlier one left; a completion takes
it. All that histories are known to come to therefore holds of every run.
-/

namespace Interception

variable {σ τ : Type}

/-! ## Runs -/

namespace Chain

/-- A use of a chain by its owner. -/
inductive Use (σ : Type) where
  | push (interceptor : Interceptor σ)
  | preHandle (request : Request) (handler : HandlerRef)
  | postHandle (request : Request) (handler : HandlerRef) (mav : Option (ModelAndView σ))
  | complete (request : Request) (handler : HandlerRef) (failure : Option Failure)
  /-- What the owner does to the exchange in between. -/
  | act (change : Exchange σ → Exchange σ)

/-- The chain after a use. -/
def use (c : Chain σ) : Use σ → Activity (Exchange σ) (Chain σ)
  | .push interceptor => return c.push interceptor
  | .preHandle request handler => do
    let (_, c) ← c.preHandle request handler
    return c
  | .postHandle request handler mav => do
    let _ ← Activity.withPart mav (c.postHandle request handler)
    return c
  | .complete request handler failure => c.complete request handler failure
  | .act change => do
    Activity.change change
    return c

/-- The chain after a number of uses. -/
def useAll : List (Use σ) → Chain σ → Activity (Exchange σ) (Chain σ)
  | [], c => return c
  | u :: uses, c => do useAll uses (← c.use u)

/-- A chain under observation, where interceptors go by their position in the chain. -/
def observed (c : Chain σ) : Chain (Logged σ) := c.observedAs c.interceptors.zipIdx

namespace Use

/-- The use under observation, of a chain with so many interceptors. -/
def observed (length : Nat) : Use σ → Use (Logged σ)
  | .push interceptor => .push (interceptor.observed length)
  | .preHandle request handler => .preHandle request handler
  | .postHandle request handler mav =>
    .postHandle request handler (mav.map ModelAndView.observed)
  | .complete request handler failure => .complete request handler failure
  | .act change => .act fun x => (change x.bare).logged x.calls

/-- How many interceptors a chain has after the use. -/
def lengthAfter (length : Nat) : Use σ → Nat
  | .push _ => length + 1
  | _ => length

/-- The uses under observation, of a chain with so many interceptors at first. -/
def observedAll : Nat → List (Use σ) → List (Use (Logged σ))
  | _, [] => []
  | length, u :: uses => u.observed length :: observedAll (u.lengthAfter length) uses

end Use

end Chain

namespace Call

def isPreHandle : Call σ → Bool
  | .preHandle .. => true
  | _ => false

/-- Whether an interceptor refuses the request with this call. -/
def isRefusal : Call σ → Bool
  | .preHandle _ _ _ (.ok false) => true
  | _ => false

end Call

namespace Chain

/-- The episodes of a use that made the given calls. A refusal asks for a completion. -/
def Use.episodes (calls : List (Call σ)) : Use τ → List (Episode σ)
  | .push _ => [.push]
  | .preHandle _ _ =>
    let pass := calls.takeWhile Call.isPreHandle
    if pass.any Call.isRefusal then
      [.pass pass, .completion (calls.dropWhile Call.isPreHandle)]
    else [.pass pass]
  | .postHandle _ _ _ => [.postHandling calls]
  | .complete _ _ _ => [.completion calls]
  | .act _ => []

/-- The episodes of uses under observation. -/
def episodes : List (Use (Logged σ)) → Chain (Logged σ) → Exchange (Logged σ) → List (Episode σ)
  | [], _, _ => []
  | u :: uses, c, x =>
    u.episodes ((c.use u x).state.calls.drop x.calls.length) ++
      episodes uses (c.use u x).result (c.use u x).state

/-- The run of uses of a new chain, under observation. -/
def observedRun (interceptors : List (Interceptor σ)) (uses : List (Use σ)) (x : Exchange σ) :
    Run (Exchange (Logged σ)) (Chain (Logged σ)) :=
  useAll (Use.observedAll interceptors.length uses) (ofList interceptors).observed (x.logged [])

/-- What is seen of a new chain when it is used. -/
def history (interceptors : List (Interceptor σ)) (uses : List (Use σ)) (x : Exchange σ) :
    List (Episode σ) :=
  episodes (Use.observedAll interceptors.length uses) (ofList interceptors).observed (x.logged [])

end Chain

/-! ## Calls in turn by position -/

namespace InTurn

variable {ι : Type} {made : ι → Call σ → Prop} {turns : List ι} {calls : List (Call σ)}

theorem passes_le (h : InTurn made turns calls) : passes calls ≤ turns.length := by
  induction h with
  | done => exact Nat.le_refl _
  | passed _ pass _ ih =>
      rw [passes_cons_of_passed pass]
      exact Nat.succ_le_succ ih
  | stopped _ stop =>
      rw [passes_cons_of_not_passed stop]
      exact Nat.zero_le _

theorem forall_passed (h : InTurn made turns calls) (all : passes calls = turns.length) :
    ∀ call ∈ calls, call.passed = true := by
  induction h with
  | done => simp
  | passed _ pass _ ih =>
      rw [passes_cons_of_passed pass, List.length_cons, Nat.succ_inj] at all
      exact List.forall_mem_cons.mpr ⟨pass, ih all⟩
  | stopped _ stop =>
      rw [passes_cons_of_not_passed stop] at all
      exact absurd all.symm (Nat.succ_ne_zero _)

theorem exists_not_passed (h : InTurn made turns calls) (some : passes calls < turns.length) :
    ∃ call ∈ calls, call.passed = false := by
  induction h with
  | done => simp at some
  | passed _ pass _ ih =>
      rw [passes_cons_of_passed pass, List.length_cons, Nat.succ_lt_succ_iff] at some
      obtain ⟨call, mem, stop⟩ := ih some
      exact ⟨call, List.mem_cons_of_mem _ mem, stop⟩
  | stopped _ stop => exact ⟨_, List.mem_singleton_self _, stop⟩

/-- Only the last call may not pass. -/
theorem eq_of_not_passed (h : InTurn made turns calls) {call other : Call σ} (mem : call ∈ calls)
    (mem' : other ∈ calls) (stop : call.passed = false) (stop' : other.passed = false) :
    call = other := by
  induction h with
  | done => cases mem
  | @passed i rest first calls own pass _ ih =>
      have later : ∀ c ∈ first :: calls, c.passed = false → c ∈ calls := by
        intro c mem stop
        obtain rfl | mem := List.mem_cons.mp mem
        · rw [pass] at stop
          cases stop
        · exact mem
      exact ih (later _ mem stop) (later _ mem' stop')
  | stopped =>
      rw [List.mem_singleton.mp mem, List.mem_singleton.mp mem']

end InTurn

section Positions

variable {request : Request} {handler : HandlerRef} {failure : Option Failure}
variable {turns : List (Placed σ)} {calls : List (Call σ)}

/-- The interceptors that let the request go on are the first ones. -/
theorem InTurn.grants_eq (h : InTurn (Placed.IsPreHandle request handler) turns calls) :
    grants calls = (turns.map Prod.snd).take (passes calls) := by
  induction h with
  | done => rfl
  | @passed p rest call calls own pass _ ih =>
      obtain ⟨x, rfl⟩ := own
      rw [passes_cons_of_passed pass, List.map_cons, List.take_succ_cons, ← ih]
      match (p.1.preHandle request handler x).result, pass with
      | .ok true, _ => rfl
  | @stopped p rest call own stop =>
      obtain ⟨x, rfl⟩ := own
      rw [passes_cons_of_not_passed stop, List.take_zero]
      match (p.1.preHandle request handler x).result, stop with
      | .ok false, _ => rfl
      | .error failure, _ => rfl

theorem completes_of_forall₂
    (h : List.Forall₂ (Placed.IsAfterCompletion request handler failure) turns calls) :
    Completes (turns.map Prod.snd) calls := by
  rw [Completes, List.forall₂_map_left_iff]
  refine h.imp ?_
  rintro p call ⟨x, rfl⟩
  exact ⟨request, failure, x, _, rfl⟩

theorem take_map_snd_zipIdx {α : Type} (as : List α) {count : Nat} (le : count ≤ as.length) :
    (as.zipIdx.take count).map Prod.snd = List.range count := by
  rw [List.map_take, List.zipIdx_map_snd, ← List.range_eq_range', List.take_range,
    Nat.min_eq_left le]

end Positions

/-! ## Passes -/

namespace Chain

/-- How many interceptors a chain remembers after a pass: those of the pass, or as many as before if
the pass had no success. -/
def kept (count : Nat) (pass : List (Call σ)) : Nat :=
  if passes pass = 0 then count else passes pass

end Chain

/-- A pass over a chain that remembers so many interceptors: what it leaves, and the completion
that follows a refusal. -/
inductive Passing (request : Request) (handler : HandlerRef) (selected : List (Placed σ))
    (count : Nat) : List (Call σ) → Except Failure Bool × Chain σ → Prop where
  | ended {pass : List (Call σ)} {answer : Except Failure Bool}
      (inTurn : InTurn (Placed.IsPreHandle request handler) selected pass)
      (fine : ∀ call ∈ pass, call.isRefusal = false) :
      Passing request handler selected count pass
        (answer, Chain.after selected (Chain.kept count pass))
  | refused {pass completion : List (Call σ)}
      (inTurn : InTurn (Placed.IsPreHandle request handler) selected pass)
      (refusal : ∃ call ∈ pass, call.isRefusal = true)
      (completed : List.Forall₂ (Placed.IsAfterCompletion request handler none)
        (selected.take (Chain.kept count pass)).reverse completion) :
      Passing request handler selected count (pass ++ completion)
        (.ok false, Chain.after selected 0)

theorem Call.not_isRefusal_of_passed {call : Call σ} (h : call.passed = true) :
    call.isRefusal = false := by
  match call, h with
  | .preHandle _ _ _ (.ok true), _ => rfl
  | .handle _ _ (.ok _), _ => rfl
  | .postHandle _ _ _ _ (.ok ()), _ => rfl
  | .render _ _ _ (.ok ()), _ => rfl
  | .afterCompletion .., _ => rfl

/-- A call with an error neither passes nor refuses. -/
theorem Call.not_passed_not_isRefusal_of_error {call : Call σ} {e : DispatchError}
    (h : call.error? = some e) : call.passed = false ∧ call.isRefusal = false := by
  match call, h with
  | .preHandle _ _ _ (.error _), _ => exact ⟨rfl, rfl⟩
  | .handle _ _ (.error _), _ => exact ⟨rfl, rfl⟩
  | .postHandle _ _ _ _ (.error _), _ => exact ⟨rfl, rfl⟩
  | .render _ _ _ (.error _), _ => exact ⟨rfl, rfl⟩

/-- A pass that begins with a success is remembered as if nothing had been before. -/
theorem Began.passing {request : Request} {handler : HandlerRef} {p : Placed σ}
    {turns : List (Placed σ)} {count : Nat} {first : Call σ} {more : List (Call σ)}
    {outcome : Except Failure Bool × Chain σ} (own : p.IsPreHandle request handler first)
    (pass : first.passed = true)
    (h : Began request handler (p :: turns) 1 turns more outcome) :
    Passing request handler (p :: turns) count (first :: more) outcome := by
  have kept : ∀ calls : List (Call σ), 1 + passes calls = Chain.kept count (first :: calls) := by
    intro calls
    rw [Chain.kept, passes_cons_of_passed pass, if_neg (Nat.succ_ne_zero _), Nat.add_comm]
  cases h with
  | passed inTurn all fine =>
      rw [kept]
      refine .ended (.passed own pass inTurn) ?_
      have passed : ∀ call ∈ first :: more, call.passed = true :=
        List.forall_mem_cons.mpr ⟨pass, inTurn.forall_passed all⟩
      exact fun call mem => Call.not_isRefusal_of_passed (passed call mem)
  | @refused calls completion inTurn some fine completed =>
      rw [kept] at completed
      refine .refused (.passed own pass inTurn) ?_ completed
      obtain ⟨call, mem, stop⟩ := inTurn.exists_not_passed some
      refine ⟨call, List.mem_cons_of_mem _ mem, ?_⟩
      obtain ⟨q, _, x, rfl⟩ := inTurn.exists_of_mem mem
      have noError := List.findSome?_eq_none_iff.mp fine _ mem
      match (q.1.preHandle request handler x).result, stop, noError with
      | .ok false, _, _ => rfl
  | failed inTurn some found =>
      rw [kept]
      refine .ended (.passed own pass inTurn) ?_
      obtain ⟨failing, mem, error⟩ := List.exists_of_findSome?_eq_some found
      intro call mem'
      obtain rfl | mem' := List.mem_cons.mp mem'
      · exact Call.not_isRefusal_of_passed pass
      · cases passed : call.passed with
        | true => exact Call.not_isRefusal_of_passed passed
        | false =>
            have stops := Call.not_passed_not_isRefusal_of_error error
            rw [inTurn.eq_of_not_passed mem' mem passed stops.1]
            exact stops.2

namespace Observes

variable (request : Request) (handler : HandlerRef)

/-- A pass over a chain, whatever it remembers. -/
theorem pass (selected : List (Placed σ)) {count : Nat} (le : count ≤ selected.length) :
    Observes .exchange (Prod.map id (Chain.observedAs selected))
      ((Chain.after selected count).preHandle request handler)
      (((Chain.after selected count).observedAs selected).preHandle request handler)
      (Passing request handler selected count) := by
  cases selected with
  | nil =>
      obtain rfl : count = 0 := Nat.le_zero.mp le
      exact Observes.pure (.ended .done (by simp))
  | cons p turns =>
      refine Observes.bind (Observes.preHandle request handler p) ?_
      rintro answer _ ⟨x, rfl, own⟩
      have made : p.IsPreHandle request handler (.preHandle p.2 request x answer) := by
        rw [own]
        exact ⟨x, rfl⟩
      match answer, made with
      | .error failure, made =>
          exact Observes.pure (.ended (.stopped made rfl) (by simp [Call.isRefusal]))
      | .ok false, made =>
          refine Observes.bind (Observes.complete request handler none (p :: turns) count) ?_
          rintro _ completion ⟨rfl, completed⟩
          refine Observes.pure ?_
          rw [List.append_nil]
          exact .refused (.stopped made rfl) ⟨_, List.mem_singleton_self _, rfl⟩ completed
      | .ok true, made =>
          exact (Observes.preHandleFrom request handler (p :: turns) turns 1).mono
            fun more outcome began => began.passing made rfl

end Observes

/-! ## What a use shows -/

/-- What is known about a chain between two uses. -/
def Chain.ledger (c : Chain σ) : Ledger := ⟨c.interceptors.length, c.passed⟩

namespace Chain

variable {request : Request} {handler : HandlerRef} {failure : Option Failure}
variable {interceptors : List (Interceptor σ)} {count : Nat} {calls pass completion : List (Call σ)}

/-- A chain is one of interceptors of which so many are remembered. -/
theorem exists_eq_after {c : Chain σ} (range : c.ledger.InRange) :
    ∃ count ≤ c.interceptors.length, c = after c.interceptors.zipIdx count := by
  obtain ⟨interceptors, _ | last⟩ := c
  · exact ⟨0, Nat.zero_le _, by simp [after]⟩
  · exact ⟨last + 1, range last rfl, by simp [after]⟩

theorem interceptors_after_zipIdx (interceptors : List (Interceptor σ)) (count : Nat) :
    (after interceptors.zipIdx count).interceptors = interceptors := by
  simp [after]

theorem observed_after_zipIdx (interceptors : List (Interceptor σ)) (count : Nat) :
    (after interceptors.zipIdx count).observed =
      (after interceptors.zipIdx count).observedAs interceptors.zipIdx := by
  rw [observed, interceptors_after_zipIdx]

theorem observed_push (c : Chain σ) (interceptor : Interceptor σ) :
    (c.push interceptor).observed =
      c.observed.push (interceptor.observed c.interceptors.length) := by
  simp [observed, observedAs, push, List.zipIdx_append, Placed.observed]

/-- A completion of all that is remembered is what is owed, and settles it. -/
theorem lawfulAfter_completion (le : count ≤ interceptors.length)
    (completed : List.Forall₂ (Placed.IsAfterCompletion request handler failure)
      (interceptors.zipIdx.take count).reverse completion) :
    Episode.LawfulAfter (after interceptors.zipIdx count).ledger (.completion completion) ∧
      Episode.settle (after interceptors.zipIdx count).ledger (.completion completion) =
        (after interceptors.zipIdx 0).ledger := by
  have completes := completes_of_forall₂ completed
  rw [List.map_reverse, take_map_snd_zipIdx interceptors le] at completes
  cases count with
  | zero =>
      obtain rfl : completion = [] := by simpa [Completes] using completes
      exact ⟨rfl, rfl⟩
  | succ last =>
      have completes : CompletesFrom last completion := completes
      refine ⟨completes, ?_⟩
      simp [Episode.settle, completes.ne_nil, ledger, after]

/-- A pass is lawful, and what it settles is what the chain then remembers. -/
theorem lawfulAfter_pass (count : Nat)
    (inTurn : InTurn (Placed.IsPreHandle request handler) interceptors.zipIdx pass) :
    Episode.LawfulAfter (after interceptors.zipIdx count).ledger (.pass pass) ∧
      Episode.settle (after interceptors.zipIdx count).ledger (.pass pass) =
        (after interceptors.zipIdx (kept count pass)).ledger := by
  have le : passes pass ≤ interceptors.length := by simpa using inTurn.passes_le
  have granted : grants pass = List.range (passes pass) := by
    rw [inTurn.grants_eq, ← List.map_take, take_map_snd_zipIdx interceptors le]
  have none : completions pass = [] := by
    rw [completions, List.filterMap_eq_nil_iff]
    intro call mem
    obtain ⟨p, _, x, rfl⟩ := inTurn.exists_of_mem mem
    rfl
  refine ⟨⟨none, passes pass, by simpa [ledger, after] using le, granted⟩, ?_⟩
  rw [Episode.settle, granted, kept]
  cases passes pass with
  | zero => rfl
  | succ last => simp [max?_range_succ, ledger, after]

theorem episodes_preHandle
    (inTurn : InTurn (Placed.IsPreHandle request handler) interceptors.zipIdx pass)
    (completed : ∀ call ∈ completion, call.isPreHandle = false) :
    (pass ++ completion).takeWhile Call.isPreHandle = pass ∧
      (pass ++ completion).dropWhile Call.isPreHandle = completion := by
  have begins : ∀ call ∈ pass, call.isPreHandle = true := by
    intro call mem
    obtain ⟨p, _, x, rfl⟩ := inTurn.exists_of_mem mem
    rfl
  rw [List.takeWhile_append_of_pos begins, List.dropWhile_append_of_pos begins]
  cases completion with
  | nil => simp
  | cons call completion =>
      have own := completed call List.mem_cons_self
      simp [own]

end Chain

/-- What the episodes of a use tell: its calls, by the rules, and what the chain then remembers. -/
structure Shows (c : Chain σ) (episodes : List (Episode σ)) (calls : List (Call σ))
    (c' : Chain σ) : Prop where
  calls : callsOf episodes = calls
  lawful : Lawful c.ledger episodes
  ledger : c'.ledger = c.ledger.after episodes

namespace Shows

variable {request : Request} {handler : HandlerRef}
variable {interceptors : List (Interceptor σ)} {count : Nat} {calls : List (Call σ)}
variable {outcome : Except Failure Bool × Chain σ}

theorem of_passing
    (h : Passing request handler interceptors.zipIdx count calls outcome)
    (le : count ≤ interceptors.length) :
    Shows (Chain.after interceptors.zipIdx count)
      (Chain.Use.episodes (τ := σ) calls (.preHandle request handler)) calls outcome.2 := by
  cases h with
  | ended inTurn fine =>
      obtain ⟨own, settled⟩ := Chain.lawfulAfter_pass count inTurn
      have begin := (Chain.episodes_preHandle inTurn (List.forall_mem_nil _)).1
      rw [List.append_nil] at begin
      have noRefusal : calls.any Call.isRefusal = false :=
        List.any_eq_false.mpr (by simpa using fine)
      simp only [Chain.Use.episodes, begin, noRefusal, Bool.false_eq_true, if_false]
      exact ⟨by simp [callsOf, Episode.calls], ⟨own, trivial⟩, settled.symm⟩
  | @refused pass completion inTurn refusal completed =>
      obtain ⟨own, settled⟩ := Chain.lawfulAfter_pass count inTurn
      have le : Chain.kept count pass ≤ interceptors.length := by
        have bound := inTurn.passes_le
        rw [List.length_zipIdx] at bound
        rw [Chain.kept]
        split
        · exact le
        · exact bound
      obtain ⟨own', settled'⟩ := Chain.lawfulAfter_completion le completed
      have noPre : ∀ call ∈ completion, call.isPreHandle = false := by
        intro call mem
        obtain ⟨p, _, x, rfl⟩ := exists_of_mem_forall₂ completed mem
        rfl
      obtain ⟨begin, rest⟩ := Chain.episodes_preHandle inTurn noPre
      have some : pass.any Call.isRefusal = true := List.any_eq_true.mpr refusal
      simp only [Chain.Use.episodes, begin, rest, some, if_true]
      refine ⟨by simp [callsOf, Episode.calls], ⟨own, ?_, trivial⟩, ?_⟩
      · rwa [settled]
      · rw [Ledger.after_cons, settled, Ledger.after_cons, settled', Ledger.after_nil]

end Shows

namespace Observes

variable {o : Observation σ (Exchange σ) (Exchange (Logged σ))} {α α' : Type}

/-- The image of a result may be said in another way. -/
theorem image {f g : α → α'} {p : Activity (Exchange σ) α} {p' : Activity (Exchange (Logged σ)) α'}
    {Q : List (Call σ) → α → Prop} (h : Observes o f p p' Q)
    (same : ∀ calls a, Q calls a → f a = g a) : Observes o g p p' Q := by
  intro s log
  obtain ⟨calls, pauses, result, state, hq⟩ := h s log
  exact ⟨calls, pauses, by rw [result, same _ _ hq], state, hq⟩

/-- A use that adds nothing shows as its episodes. -/
theorem use_of_ne_push (interceptors : List (Interceptor σ)) {count : Nat}
    (le : count ≤ interceptors.length) (u : Chain.Use σ) (noPush : ∀ i, u ≠ .push i) :
    Observes .exchange (Chain.observedAs interceptors.zipIdx)
      ((Chain.after interceptors.zipIdx count).use u)
      (((Chain.after interceptors.zipIdx count).observedAs interceptors.zipIdx).use
        (u.observed interceptors.length))
      fun calls c' => Shows (Chain.after interceptors.zipIdx count) (u.episodes calls) calls c' ∧
        c'.interceptors = interceptors := by
  have same := Chain.interceptors_after_zipIdx interceptors
  cases u with
  | push interceptor => exact absurd rfl (noPush interceptor)
  | preHandle request handler =>
      have passes := Observes.pass request handler interceptors.zipIdx (by simpa using le)
      refine Observes.bind passes ?_
      rintro ⟨answer, c'⟩ calls passing
      refine Observes.pure ?_
      rw [List.append_nil]
      refine ⟨.of_passing passing le, ?_⟩
      cases passing <;> exact same _
  | postHandle request handler mav =>
      have turns := Observes.postHandleChain request handler interceptors.zipIdx count
      refine Observes.bind (turns.withPart mav) ?_
      rintro answer calls ⟨inTurn, _⟩
      refine Observes.pure ?_
      rw [List.append_nil]
      refine ⟨⟨by simp [Chain.Use.episodes, callsOf, Episode.calls], ⟨?_, trivial⟩, rfl⟩, same _⟩
      constructor
      · rw [grants, List.filterMap_eq_nil_iff]
        intro call mem
        obtain ⟨p, _, x, mav, rfl⟩ := inTurn.exists_of_mem mem
        rfl
      · rw [completions, List.filterMap_eq_nil_iff]
        intro call mem
        obtain ⟨p, _, x, mav, rfl⟩ := inTurn.exists_of_mem mem
        rfl
  | complete request handler failure =>
      refine (Observes.complete request handler failure interceptors.zipIdx count).mono ?_
      rintro calls _ ⟨rfl, completed⟩
      obtain ⟨own, settled⟩ := Chain.lawfulAfter_completion le completed
      refine ⟨⟨by simp [Chain.Use.episodes, callsOf, Episode.calls], ⟨own, trivial⟩, ?_⟩, same _⟩
      exact settled.symm
  | act change =>
      refine Observes.bind (Q := fun calls _ => calls = []) (f := id) ?_ ?_
      · exact fun x log => ⟨[], rfl, rfl, by rw [List.append_nil]; rfl, rfl⟩
      · rintro _ _ rfl
        exact Observes.pure ⟨⟨rfl, trivial, rfl⟩, same _⟩

/-- Every use of a chain shows as its episodes. -/
theorem use {c : Chain σ} (range : c.ledger.InRange) (u : Chain.Use σ) :
    Observes .exchange Chain.observed (c.use u) (c.observed.use (u.observed c.interceptors.length))
      fun calls c' => Shows c (u.episodes calls) calls c' ∧
        c'.interceptors.length = u.lengthAfter c.interceptors.length := by
  by_cases push : ∃ interceptor, u = .push interceptor
  · obtain ⟨interceptor, rfl⟩ := push
    simp only [Chain.use, Chain.Use.observed, ← Chain.observed_push]
    refine Observes.pure ⟨⟨rfl, ⟨trivial, trivial⟩, ?_⟩, ?_⟩
    · simp [Chain.ledger, Chain.push, Chain.Use.episodes, Episode.settle]
    · simp [Chain.push, Chain.Use.lengthAfter]
  · obtain ⟨count, le, eq⟩ := Chain.exists_eq_after range
    obtain ⟨interceptors, rfl⟩ : ∃ is, c = Chain.after (List.zipIdx is) count := ⟨_, eq⟩
    rw [Chain.interceptors_after_zipIdx] at le
    have noPush : ∀ i, u ≠ .push i := fun i own => push ⟨i, own⟩
    rw [Chain.observed_after_zipIdx, Chain.interceptors_after_zipIdx]
    refine ((Observes.use_of_ne_push interceptors le u noPush).image ?_).mono ?_
    · rintro calls c' ⟨_, same⟩
      rw [Chain.observed, same]
    · rintro calls c' ⟨shows, same⟩
      refine ⟨shows, ?_⟩
      cases u with
      | push interceptor => exact absurd rfl (noPush interceptor)
      | _ => exact congrArg List.length same

end Observes

/-! ## Runs under observation -/

namespace Chain

theorem Use.episodes_observed (length : Nat) (u : Use σ) (calls : List (Call σ)) :
    (u.observed length).episodes calls = u.episodes calls := by
  cases u <;> rfl

/-- From any chain on, uses under observation take the same course, and their episodes are lawful
and lead to what the chain remembers in the end. -/
theorem episodes_useAll (uses : List (Use σ)) {c : Chain σ} (range : c.ledger.InRange)
    (x : Exchange σ) (log : List (Call σ)) :
    let run := useAll (Use.observedAll c.interceptors.length uses) c.observed (x.logged log)
    let history := episodes (Use.observedAll c.interceptors.length uses) c.observed (x.logged log)
    (run.pauses.map fun (d, y) => (d, y.bare)) = (useAll uses c x).pauses ∧
      run.result = (useAll uses c x).result.observed ∧
      run.state = (useAll uses c x).state.logged (log ++ callsOf history) ∧
      Lawful c.ledger history ∧
      (useAll uses c x).result.ledger = c.ledger.after history := by
  induction uses generalizing c x log with
  | nil =>
      refine ⟨rfl, rfl, ?_, trivial, rfl⟩
      change x.logged log = x.logged (log ++ [])
      rw [List.append_nil]
  | cons u uses ih =>
      obtain ⟨calls, pauses, result, state, shows, length⟩ := Observes.use range u x log
      replace result : (c.observed.use (u.observed c.interceptors.length) (x.logged log)).result =
        (c.use u x).result.observed := result
      replace state : (c.observed.use (u.observed c.interceptors.length) (x.logged log)).state =
        (c.use u x).state.logged (log ++ calls) := state
      have range' : (c.use u x).result.ledger.InRange := by
        rw [shows.ledger]
        exact shows.lawful.inRange range
      obtain ⟨pauses', result', state', lawful, ledger⟩ :=
        ih range' (c.use u x).state (log ++ calls)
      rw [length] at pauses' result' state' lawful ledger
      have added : ((c.use u x).state.logged (log ++ calls)).calls.drop
          (x.logged log).calls.length = calls := by
        rw [Exchange.calls_logged, Exchange.calls_logged, List.drop_left]
      simp only [useAll, Use.observedAll, episodes, Activity.bind_apply, Run.pauses_bind,
        Run.result_bind, Run.state_bind, result, state, added, Use.episodes_observed,
        List.map_append]
      refine ⟨congrArg₂ _ pauses pauses', result', ?_, ?_, ?_⟩
      · rw [state', callsOf_append, shows.calls, List.append_assoc]
      · exact lawful_append_iff.mpr ⟨shows.lawful, shows.ledger ▸ lawful⟩
      · rw [ledger, shows.ledger, Ledger.after_append]

/-- A chain keeps account of the completions that it owes, however it is used. What it remembers
between two uses is what its history owes, and is always the position of one of its interceptors. A
completion, asked for by the owner or by a refusal, calls the positions from there down to the
first, and nothing if nothing is owed. So at every moment an interceptor was completed at most as
often as it let a request go on; and if there was a single pass, every interceptor that let the
request go on was completed once if a completion followed, and not otherwise. -/
theorem completion_accounting (interceptors : List (Interceptor σ)) (uses : List (Use σ))
    (x : Exchange σ) :
    let run := useAll uses (ofList interceptors) x
    let seen := history interceptors uses x
    ((observedRun interceptors uses x).mapState Exchange.bare = run.map observed ∧
      (observedRun interceptors uses x).state.calls = callsOf seen) ∧
    (∀ last, run.result.passed = some last ↔ Owes seen last) ∧
    (∀ last, run.result.passed = some last → last < run.result.interceptors.length) ∧
    (∀ earlier calls later, seen = earlier ++ .completion calls :: later →
      (∀ last, Owes earlier last → CompletesFrom last calls ∧
        last < interceptors.length + earlier.countP Episode.isPush) ∧
      ((∀ last, ¬ Owes earlier last) → calls = [])) ∧
    (∀ calls, calls <+: callsOf seen → ∀ position,
      (completions calls).count position ≤ (grants calls).count position) ∧
    (∀ earlier calls later, seen = earlier ++ .pass calls :: later →
      (∀ e ∈ earlier ++ later, ¬ e.IsPass) → ∀ position ∈ grants calls,
      ((∃ e ∈ later, e.IsCompletion) → (completions (callsOf seen)).count position = 1) ∧
      ((∀ e ∈ later, ¬ e.IsCompletion) → (completions (callsOf seen)).count position = 0)) := by
  intro run seen
  have range : (ofList interceptors).ledger.InRange := Ledger.inRange_start interceptors.length
  obtain ⟨pauses, result, state, lawful, ledger⟩ := episodes_useAll uses range x []
  replace lawful : Lawful (.start interceptors.length) seen := lawful
  replace ledger : run.result.ledger = (Ledger.start interceptors.length).after seen := ledger
  have passed : run.result.passed = ((Ledger.start interceptors.length).after seen).owed :=
    congrArg Ledger.owed ledger
  refine ⟨⟨?_, ?_⟩, ?_, ?_, ?_, ?_, ?_⟩
  · apply Run.ext
    · rw [Run.pauses_mapState, Run.pauses_map]
      exact pauses
    · rw [Run.result_mapState, Run.result_map]
      exact result
    · rw [Run.state_mapState, Run.state_map, observedRun]
      exact congrArg Exchange.bare state
  · exact congrArg Exchange.calls state
  · intro last
    rw [passed, owed_eq_some_iff]
  · intro last own
    have inRange := lawful.inRange (Ledger.inRange_start _)
    rw [← ledger] at inRange
    exact inRange last own
  · intro earlier calls later split
    rw [split] at lawful
    exact lawful.completion
  · intro calls cut position
    exact lawful.count_completions_le (Lawful.balanced_start interceptors.length position) cut
  · intro earlier calls later split noPass position granted
    rw [split] at lawful ⊢
    exact lawful.count_completions_of_single_pass noPass granted

end Chain

end Interception
