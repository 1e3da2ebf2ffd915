import Interception.Dispatcher
import Mathlib.Data.List.Basic

/-!
# Two requests side by side

Two runs take the same course up to a relation between their states: they pause alike, and end with
related results in related states. Activities whose runs do so from all related states simulate each
other, and what is put together from such activities in the same way does so again.

Chains may differ in more than that. In the second one there may be additional interceptors, as long
as they let everything pass and lead from a state to one that is related to the same states. Such an
interceptor moves the positions of those behind it, takes its turn before and after the handler, and
is completed with the others, but the chains stay in step: at all times those that have let the
request go on are the same, but for the additional ones.
-/

namespace Interception

/-! ## Lists with insertions -/

/-- The second list is the first one, element by element, with further elements put in anywhere. -/
inductive Padded {α β : Type} (same : α → β → Prop) (added : β → Prop) : List α → List β → Prop where
  | nil : Padded same added [] []
  | same {a : α} {b : β} {as : List α} {bs : List β} (own : same a b)
      (rest : Padded same added as bs) : Padded same added (a :: as) (b :: bs)
  | added {b : β} {as : List α} {bs : List β} (own : added b) (rest : Padded same added as bs) :
      Padded same added as (b :: bs)

namespace Padded

variable {α β α' β' : Type} {same : α → β → Prop} {added : β → Prop}
variable {as more : List α} {bs more' : List β}

theorem append (h : Padded same added as bs) (h' : Padded same added more more') :
    Padded same added (as ++ more) (bs ++ more') := by
  induction h with
  | nil => exact h'
  | same own _ ih => exact .same own ih
  | added own _ ih => exact .added own ih

theorem reverse (h : Padded same added as bs) : Padded same added as.reverse bs.reverse := by
  induction h with
  | nil => exact .nil
  | same own _ ih =>
      rw [List.reverse_cons, List.reverse_cons]
      exact ih.append (.same own .nil)
  | @added b as bs own _ ih =>
      rw [List.reverse_cons, ← List.append_nil as.reverse]
      exact ih.append (.added own .nil)

theorem map {same' : α' → β' → Prop} {added' : β' → Prop} {f : α → α'} {g : β → β'}
    (h : Padded same added as bs) (own : ∀ a b, same a b → same' (f a) (g b))
    (extra : ∀ b, added b → added' (g b)) : Padded same' added' (as.map f) (bs.map g) := by
  induction h with
  | nil => exact .nil
  | same first _ ih => exact .same (own _ _ first) ih
  | added first _ ih => exact .added (extra _ first) ih

end Padded

/-! ## Runs -/

section Simulation

variable {S T S' T' α β α' β' : Type}

/-- Both parts of the pairs are related. -/
def Beside (R : S → T → Prop) (B : α → β → Prop) (s : S × α) (t : T × β) : Prop :=
  R s.1 t.1 ∧ B s.2 t.2

/-- The runs pause alike, and they end with related results. Their states are related in every pause
and in the end. -/
inductive Run.Related (R : S → T → Prop) (V : α → β → Prop) : Run S α → Run T β → Prop where
  | done {a : α} {b : β} {s : S} {t : T} (result : V a b) (state : R s t) :
      Related R V (.done a s) (.done b t)
  | pause {d : Nat} {s : S} {t : T} {r : Run S α} {r' : Run T β} (state : R s t)
      (rest : Related R V r r') : Related R V (.pause d s r) (.pause d t r')

namespace Run.Related

variable {R : S → T → Prop} {R' : S' → T' → Prop} {V : α → β → Prop} {W : α' → β' → Prop}
variable {r : Run S α} {r' : Run T β}

theorem state (h : Related R V r r') : R r.state r'.state := by
  induction h with
  | done _ state => exact state
  | pause _ _ ih => exact ih

theorem bind {f : α → S → Run S α'} {g : β → T → Run T β'} (h : Related R V r r')
    (next : ∀ a b s t, V a b → R s t → Related R W (f a s) (g b t)) :
    Related R W (r.bind f) (r'.bind g) := by
  induction h with
  | done result state => exact next _ _ _ _ result state
  | pause state _ ih => exact .pause state ih

theorem mapState {f : S → S'} {g : T → T'} (h : Related R V r r')
    (keeps : ∀ s t, R s t → R' (f s) (g t)) :
    Related R' V (r.mapState f) (r'.mapState g) := by
  induction h with
  | done result state => exact .done result (keeps _ _ state)
  | pause state _ ih => exact .pause (keeps _ _ state) ih

/-- A part of the state becomes a part of the result in both. -/
theorem withPart {P Q : Type} {B : P → Q → Prop} {r : Run (S × P) α} {r' : Run (T × Q) β}
    (h : Related (Beside R B) V r r') : Related R (Beside V B) r.withPart r'.withPart := by
  induction h with
  | done result state => exact .done ⟨result, state.2⟩ state.1
  | pause state _ ih => exact .pause state.1 ih

end Run.Related

/-- From related states the activities take the same course. -/
def Simulates (R : S → T → Prop) (V : α → β → Prop) (p : Activity S α) (q : Activity T β) : Prop :=
  ∀ s t, R s t → Run.Related R V (p s) (q t)

/-- The results are the same error, or related values. -/
inductive SameOutcome {ε : Type} (V : α → β → Prop) : Except ε α → Except ε β → Prop where
  | ok {a : α} {b : β} (values : V a b) : SameOutcome V (.ok a) (.ok b)
  | error (e : ε) : SameOutcome V (.error e) (.error e)

/-- The activity has this result at once, and leads to a state that is related to the same states
as the one before it. -/
def Skips (R : S → T → Prop) (q : Activity T β) (b : β) : Prop :=
  ∀ s t, R s t → ∃ t', q t = .done b t' ∧ R s t'

namespace Simulates

variable {R : S → T → Prop} {V : α → β → Prop} {W : α' → β' → Prop}
variable {p : Activity S α} {q : Activity T β}

theorem pure {a : α} {b : β} (h : V a b) :
    Simulates R V (Pure.pure a : Activity S α) (Pure.pure b : Activity T β) :=
  fun _ _ related => .done h related

theorem bind {f : α → Activity S α'} {g : β → Activity T β'} (first : Simulates R V p q)
    (next : ∀ a b, V a b → Simulates R W (f a) (g b)) : Simulates R W (p >>= f) (q >>= g) := by
  intro s t related
  apply (first s t related).bind
  intro a b s t same related
  exact next a b same s t related

theorem skip {b : β} {p : Activity S α'} {g : β → Activity T β'} (first : Skips R q b)
    (next : Simulates R W p (g b)) : Simulates R W p (q >>= g) := by
  intro s t related
  obtain ⟨t', ran, related⟩ := first s t related
  rw [Activity.bind_apply, ran]
  exact next s t' related

theorem withPart {P Q : Type} {B : P → Q → Prop} {p : Activity (S × P) α} {q : Activity (T × Q) β}
    (h : Simulates (Beside R B) V p q) {x : P} {y : Q} (part : B x y) :
    Simulates R (Beside V B) (Activity.withPart x p) (Activity.withPart y q) := by
  intro s t related
  exact (h (s, x) (t, y) ⟨related, part⟩).withPart

end Simulates

end Simulation

/-! ## Interceptors -/

/-- What is taken for the same in two requests that run side by side: when exchanges are related, and
when answers of the handler are. Reports make no difference. -/
structure Correspondence (τ : Type) where
  exchange : Exchange τ → Exchange τ → Prop
  answer : Option (ModelAndView τ) → Option (ModelAndView τ) → Prop
  report : ∀ {x y : Exchange τ}, exchange x y →
    ∀ e e' : Event, exchange (x.report e) (y.report e')

variable {τ : Type} (C : Correspondence τ)

theorem Simulates.report (e e' : Event) :
    Simulates C.exchange Eq (report e) (report e') :=
  fun _ _ related => .done rfl (C.report related e e')

namespace Interceptor

/-- The hooks of the second interceptor simulate those of the first. -/
structure Simulated (i j : Interceptor τ) : Prop where
  preHandle : ∀ request handler,
    Simulates C.exchange Eq (i.preHandle request handler) (j.preHandle request handler)
  postHandle : ∀ request handler, Simulates (Beside C.exchange C.answer) Eq
    (i.postHandle request handler) (j.postHandle request handler)
  afterCompletion : ∀ request handler failure, Simulates C.exchange Eq
    (i.afterCompletion request handler failure) (j.afterCompletion request handler failure)

/-- The interceptor lets everything pass at once and unchanged. -/
structure Skipped (j : Interceptor τ) : Prop where
  preHandle : ∀ request handler, Skips C.exchange (j.preHandle request handler) (.ok true)
  postHandle : ∀ request handler,
    Skips (Beside C.exchange C.answer) (j.postHandle request handler) (.ok ())
  afterCompletion : ∀ request handler failure,
    Skips C.exchange (j.afterCompletion request handler failure) (.ok ())

/-- In the second list there are additional interceptors that let everything pass. -/
abbrev PaddedBy : List (Interceptor τ) → List (Interceptor τ) → Prop :=
  Padded (Simulated C) (Skipped C)

end Interceptor

open Interceptor (PaddedBy)

/-! ## Chains -/

namespace Chain

/-- The chains hold the same interceptors, and the same ones are to be completed, but for the
additional ones in the second. -/
structure InStep (c c' : Chain τ) : Prop where
  interceptors : PaddedBy C c.interceptors c'.interceptors
  due : PaddedBy C c.due c'.due

/-- The chain on which the interceptors in front have let the request go on. -/
def between (front turns : List (Interceptor τ)) : Chain τ where
  interceptors := front ++ turns
  passed := match front.length with
    | 0 => none
    | count + 1 => some count

variable {C} {c c' : Chain τ} {front turns front' turns' due due' : List (Interceptor τ)}

theorem due_between (front turns : List (Interceptor τ)) :
    (between front turns).due = front.reverse := by
  rw [due, between]
  cases length : front.length with
  | zero => simp [List.length_eq_zero_iff.mp length]
  | succ count => simp [← length]

/-- One more interceptor has let the request go on. -/
theorem between_cons (front turns : List (Interceptor τ)) (i : Interceptor τ) :
    { between front (i :: turns) with passed := some front.length } =
      between (front ++ [i]) turns := by
  simp [between]

theorem inStep_between (passed : PaddedBy C front front') (left : PaddedBy C turns turns') :
    InStep C (between front turns) (between front' turns') where
  interceptors := passed.append left
  due := by
    rw [due_between, due_between]
    exact passed.reverse

variable (request : Request) (handler : HandlerRef)

theorem completeAll_simulates (failure : Option Failure) (h : PaddedBy C due due') :
    Simulates C.exchange Eq (completeAll request handler failure due)
      (completeAll request handler failure due') := by
  induction h with
  | nil => exact .pure rfl
  | same own _ ih =>
      apply (own.afterCompletion request handler failure).bind
      rintro answer _ rfl
      cases answer with
      | ok => exact ih
      | error e => exact (Simulates.report C _ _).bind fun _ _ _ => ih
  | added own _ ih => exact .skip (own.afterCompletion request handler failure) ih

theorem complete_simulates (failure : Option Failure) (h : InStep C c c') :
    Simulates C.exchange (InStep C) (c.complete request handler failure)
      (c'.complete request handler failure) := by
  apply (completeAll_simulates request handler failure h.due).bind
  intro _ _ _
  exact .pure ⟨h.interceptors, .nil⟩

/-- An additional interceptor moves the position of the last one that passed, and the chains stay in
step. -/
theorem preHandleFrom_simulates (passed : PaddedBy C front front')
    (left : PaddedBy C turns turns') :
    Simulates C.exchange (Beside Eq (InStep C))
      (preHandleFrom request handler (between front turns) front.length turns)
      (preHandleFrom request handler (between front' turns') front'.length turns') := by
  -- What passes moves from the turns that are left to the front, in both chains or in the second only.
  induction left generalizing front front' with
  | nil => exact .pure ⟨rfl, inStep_between passed .nil⟩
  | same own rest ih =>
      have step := inStep_between passed (.same own rest)
      have next := ih (passed.append (.same own .nil))
      rw [← between_cons, ← between_cons, List.length_append, List.length_append] at next
      apply (own.preHandle request handler).bind
      rintro answer _ rfl
      match answer with
      | .error failure => exact .pure ⟨rfl, step⟩
      | .ok true => exact next
      | .ok false =>
          apply (complete_simulates request handler none step).bind
          intro _ _ completed
          exact .pure ⟨rfl, completed⟩
  | added own rest ih =>
      have next := ih (List.append_nil front ▸ passed.append (.added own .nil))
      rw [← between_cons, List.length_append] at next
      exact .skip (own.preHandle request handler) next

theorem postHandleAll_simulates (h : PaddedBy C turns turns') :
    Simulates (Beside C.exchange C.answer) Eq (postHandleAll request handler turns)
      (postHandleAll request handler turns') := by
  induction h with
  | nil => exact .pure rfl
  | same own _ ih =>
      apply (own.postHandle request handler).bind
      rintro answer _ rfl
      cases answer with
      | ok => exact ih
      | error e => exact .pure rfl
  | added own _ ih => exact .skip (own.postHandle request handler) ih

end Chain

/-! ## Requests -/

namespace Dispatcher

/-- The handlers simulate each other, and so does the rendering of what they answered. -/
structure Simulated (d d' : Dispatcher τ) : Prop where
  handlerRef_eq : d'.handlerRef = d.handlerRef
  handler : ∀ request,
    Simulates C.exchange (SameOutcome C.answer) (d.handler request) (d'.handler request)
  renderAnswer : ∀ request mav mav', C.answer mav mav' →
    Simulates C.exchange Eq (d.renderAnswer mav request) (d'.renderAnswer mav' request)

variable {C} {d d' : Dispatcher τ} {interceptors interceptors' : List (Interceptor τ)}

theorem handle_simulates (h : Simulated C d d') (padded : PaddedBy C interceptors interceptors')
    (request : Request) :
    Simulates C.exchange (Beside Eq (Chain.InStep C))
      (d.handle (Chain.ofList interceptors) request)
      (d'.handle (Chain.ofList interceptors') request) := by
  unfold handle
  rw [h.handlerRef_eq]
  have before := Chain.preHandleFrom_simulates request d.handlerRef .nil padded
  apply Simulates.bind before
  rintro ⟨answer, chain⟩ ⟨_, chain'⟩ ⟨rfl, step⟩
  match answer with
  | .error failure => exact .pure ⟨rfl, step⟩
  | .ok false => exact .pure ⟨rfl, step⟩
  | .ok true =>
      apply (h.handler request).bind
      intro _ _ outcome
      cases outcome with
      | error failure => exact .pure ⟨rfl, step⟩
      | ok answers =>
          have after := Chain.postHandleAll_simulates request d.handlerRef
            step.interceptors.reverse
          apply Simulates.bind (after.withPart answers)
          rintro ⟨posted, left⟩ ⟨_, left'⟩ ⟨rfl, answers⟩
          cases posted with
          | error failure => exact .pure ⟨rfl, step⟩
          | ok =>
              apply (h.renderAnswer request left left' answers).bind
              rintro result _ rfl
              exact .pure ⟨rfl, step⟩

/-- Requests with chains that differ by interceptors that let everything pass take the same course,
whatever the other interceptors do. -/
theorem dispatchWith_simulates (h : Simulated C d d')
    (padded : PaddedBy C interceptors interceptors') (request : Request) (path : String) :
    Simulates C.exchange Eq (d.dispatchWith (Chain.ofList interceptors) request path)
      (d'.dispatchWith (Chain.ofList interceptors') request path) := by
  unfold dispatchWith
  apply (Simulates.report C _ _).bind
  intro _ _ _
  apply (handle_simulates h padded request).bind
  rintro ⟨result, chain⟩ ⟨_, chain'⟩ ⟨rfl, step⟩
  rw [h.handlerRef_eq]
  apply (Chain.complete_simulates request d.handlerRef _ step).bind
  intro _ _ _
  cases result with
  | ok => exact .pure rfl
  | error e => exact (Simulates.report C _ _).bind fun _ _ _ => .pure rfl

end Dispatcher

end Interception
