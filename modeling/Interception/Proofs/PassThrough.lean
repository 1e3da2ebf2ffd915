import Interception.Interceptor.Logging
import Interception.Proofs.Echo
import Interception.Proofs.Layers

/-!
# Interceptors that let everything pass

The logging interceptor, the interceptors of either kind without hooks, and any of these with limits
on time let everything pass and change nothing but the journal. They may be registered anywhere
between other interceptors: a request is dispatched as it is without them.
-/

namespace Interception

variable {σ : Type}

/-! ## The interceptors -/

theorem Skips.limited {S T α : Type} {R : S → T → Prop} {q : Activity T (Except Failure α)}
    {b : Except Failure α} (h : Skips R q b) (limit : Nat) :
    Skips R (Interceptor.limited limit q) b := by
  intro s t related
  obtain ⟨t', ran, related⟩ := h s t related
  refine ⟨t', ?_, related⟩
  rw [Interceptor.limited, ran]
  rfl

/-- A model that is put back unchanged changes nothing. -/
theorem WebInterceptor.replaceModel_visibleModel (mav : Option (ModelAndView σ)) :
    replaceModel mav (visibleModel mav) = mav := by
  cases mav with
  | none => rfl
  | some m =>
      cases cleared : m.wasCleared <;>
        simp [visibleModel, replaceModel, Option.filter_some, cleared]

namespace Interceptor

/-- An interceptor that comes with the library and lets everything pass. -/
inductive IsPassThrough : Interceptor σ → Prop where
  | logging (name : String) : IsPassThrough (logging name)
  | passThrough : IsPassThrough passThrough
  | web : IsPassThrough WebInterceptor.passThrough.toInterceptor
  | timeout (limit : Nat) {inner : Interceptor σ} (own : IsPassThrough inner) :
      IsPassThrough (timeout limit inner)

theorem IsPassThrough.skipped {i : Interceptor σ} (h : i.IsPassThrough) :
    i.Skipped (journalAside σ) := by
  induction h with
  | logging name =>
      refine ⟨fun request _ => ?_, fun request _ => ?_, fun request _ failure => ?_⟩
      · intro x y alike
        exact ⟨y.report _, rfl, alike.response, alike.world⟩
      · rintro ⟨x, mav⟩ ⟨y, mav'⟩ ⟨alike, same⟩
        exact ⟨(y.report _, mav'), rfl, ⟨alike.response, alike.world⟩, same⟩
      · intro x y alike
        exact ⟨y.report _, rfl, alike.response, alike.world⟩
  | passThrough =>
      exact ⟨fun _ _ _ y alike => ⟨y, rfl, alike⟩, fun _ _ _ t both => ⟨t, rfl, both⟩,
        fun _ _ _ _ y alike => ⟨y, rfl, alike⟩⟩
  | web =>
      refine ⟨fun _ _ _ y alike => ⟨y, rfl, alike⟩, fun request _ => ?_,
        fun _ _ _ _ y alike => ⟨y, rfl, alike⟩⟩
      rintro ⟨x, mav⟩ ⟨y, mav'⟩ both
      refine ⟨(y, mav'), ?_, both⟩
      show Run.done _ (y, WebInterceptor.replaceModel mav' (WebInterceptor.visibleModel mav')) = _
      rw [WebInterceptor.replaceModel_visibleModel]
  | timeout limit _ ih =>
      exact ⟨fun request handler => (ih.preHandle request handler).limited limit,
        fun request handler => (ih.postHandle request handler).limited limit,
        fun request handler failure => (ih.afterCompletion request handler failure).limited limit⟩

end Interceptor

/-! ## Registrations -/

/-- A mapping in the order of registration: one that is there anyway, or one that is inserted. -/
inductive Registration (σ : Type) where
  | original (m : Mapping σ)
  | inserted (m : Mapping σ)

namespace Registration

def mapping : Registration σ → Mapping σ
  | original m => m
  | inserted m => m

def original? : Registration σ → Option (Mapping σ)
  | original m => some m
  | inserted _ => none

/-- The position without the insertions of the mapping at a position with them, if it is not
inserted itself. -/
def originalPosition : List (Registration σ) → Nat → Option Nat
  | [], _ => none
  | original _ :: _, 0 => some 0
  | inserted _ :: _, 0 => none
  | original _ :: rs, position + 1 => (originalPosition rs position).map (· + 1)
  | inserted _ :: rs, position + 1 => originalPosition rs position

/-- A mapping that is there anyway, at its positions without and with the insertions. -/
def SameEntry (P : Mapping σ → Prop) (f : Nat → Option Nat) (a b : Mapping σ × Nat) : Prop :=
  a.1 = b.1 ∧ P a.1 ∧ f b.2 = some a.2

/-- An inserted mapping at its position. -/
def AddedEntry (Q : Mapping σ → Prop) (f : Nat → Option Nat) (b : Mapping σ × Nat) : Prop :=
  Q b.1 ∧ f b.2 = none

/-- The mappings with their positions, without and with the insertions. -/
theorem padded_zipIdx {P Q : Mapping σ → Prop} {f : Nat → Option Nat} {rs : List (Registration σ)}
    (originals : ∀ m, original m ∈ rs → P m) (insertions : ∀ m, inserted m ∈ rs → Q m)
    {start start' : Nat}
    (positions : ∀ n, f (start' + n) = (originalPosition rs n).map (start + ·)) :
    Padded (SameEntry P f) (AddedEntry Q f) ((rs.filterMap original?).zipIdx start)
      ((rs.map mapping).zipIdx start') := by
  induction rs generalizing start start' with
  | nil => exact .nil
  | cons r rs ih =>
      have first := positions 0
      have originals' : ∀ m, original m ∈ rs → P m :=
        fun m mem => originals m (List.mem_cons_of_mem r mem)
      have insertions' : ∀ m, inserted m ∈ rs → Q m :=
        fun m mem => insertions m (List.mem_cons_of_mem r mem)
      cases r with
      | original m =>
          refine .same ⟨rfl, originals m List.mem_cons_self, first⟩ (ih originals' insertions' ?_)
          intro n
          rw [Nat.add_assoc, Nat.add_comm 1, positions (n + 1), originalPosition, Option.map_map]
          congr 1
          funext k
          simp only [Function.comp_apply]
          omega
      | inserted m =>
          refine .added ⟨insertions m List.mem_cons_self, first⟩ (ih originals' insertions' ?_)
          intro n
          rw [Nat.add_assoc, Nat.add_comm 1, positions (n + 1), originalPosition]

end Registration

/-- Elements for which the test has a result may be inserted: the others are selected as before, and
where one of them has an error it is the same. -/
theorem selectBy_padded {α β ε : Type} {test : α → Except ε Bool} {test' : β → Except ε Bool}
    {same : α → β → Prop} {added : β → Prop} {as : List α} {bs : List β}
    (h : Padded same added as bs) (agree : ∀ a b, same a b → test a = test' b)
    (tells : ∀ b, added b → ∃ answer, test' b = .ok answer) :
    SameOutcome (Padded same added) (selectBy test as) (selectBy test' bs) := by
  induction h with
  | nil => exact .ok .nil
  | @same a b as bs own _ ih =>
      rw [selectBy, selectBy, agree a b own]
      cases test' b with
      | error e => exact .error e
      | ok accepted =>
          generalize selectBy test as = first at ih
          generalize selectBy test' bs = second at ih
          cases ih with
          | error e => exact .error e
          | ok rest =>
              cases accepted with
              | false => exact .ok rest
              | true => exact .ok (.same own rest)
  | @added b as bs own _ ih =>
      obtain ⟨accepted, told⟩ := tells b own
      rw [selectBy, told]
      generalize selectBy test as = first at ih
      generalize selectBy test' bs = second at ih
      cases ih with
      | error e => exact .error e
      | ok rest =>
          cases accepted with
          | false => exact .ok rest
          | true => exact .ok (.added own rest)

/-! ## Requests -/

namespace Dispatcher

open Registration (original inserted original? originalPosition SameEntry AddedEntry)

variable {d : Dispatcher σ} {rs : List (Registration σ)} {request : Request}

/-- The mapping's interceptor lets everything pass, and its patterns can tell whether it applies to
the path of the request. -/
def PassesThrough (d : Dispatcher σ) (request : Request) (m : Mapping σ) : Prop :=
  m.interceptor.IsPassThrough ∧
    ∃ answer, m.applies d.registry.matcher (d.pathOf request) = .ok answer

/-- What is selected without and with the insertions. -/
abbrev PaddedEntries (d : Dispatcher σ) (rs : List (Registration σ)) (request : Request) :
    List (Mapping σ × Nat) → List (Mapping σ × Nat) → Prop :=
  Padded (SameEntry (·.interceptor.IgnoresJournal) (originalPosition rs))
    (AddedEntry (d.PassesThrough request) (originalPosition rs))

/-- The insertions do not change what else is selected, nor the error if there is one. -/
theorem select_registering (split : rs.filterMap original? = d.registry.mappings)
    (h : d.IgnoresJournal) (insertions : ∀ m, inserted m ∈ rs → d.PassesThrough request m) :
    SameOutcome (d.PaddedEntries rs request) (d.registry.select (d.pathOf request))
      ((d.registering (rs.map Registration.mapping)).registry.select (d.pathOf request)) := by
  have originals : ∀ m, original m ∈ rs → m.interceptor.IgnoresJournal := by
    intro m mem
    apply h.interceptors
    rw [← split]
    exact List.mem_filterMap.mpr ⟨original m, mem, rfl⟩
  have positions : ∀ n, originalPosition rs (0 + n) = (originalPosition rs n).map (0 + ·) := by
    intro n
    simp
  have padded : d.PaddedEntries rs request d.registry.mappings.zipIdx
      (rs.map Registration.mapping).zipIdx := by
    rw [← split]
    exact Registration.padded_zipIdx originals insertions positions
  apply selectBy_padded padded
  · rintro a b ⟨same, _⟩
    rw [same]
    rfl
  · rintro b ⟨⟨_, tells⟩, _⟩
    exact tells

/-- Under observation the selected interceptors are those without the insertions, and some that let
everything pass. -/
theorem padded_observed {entries entries' : List (Mapping σ × Nat)}
    (h : d.PaddedEntries rs request entries entries') :
    Interceptor.PaddedBy (echo σ (originalPosition rs))
      ((entries.map Placed.ofEntry).map Placed.observed)
      ((entries'.map Placed.ofEntry).map Placed.observed) := by
  rw [List.map_map, List.map_map]
  apply h.map
  · rintro ⟨m, own⟩ ⟨_, position⟩ ⟨rfl, ignores, kept⟩
    exact ignores.observed kept
  · rintro ⟨m, position⟩ ⟨⟨passes, _⟩, dropped⟩
    exact passes.skipped.observed dropped

theorem observed_dispatch_of_select {entries : List (Mapping σ × Nat)}
    (h : d.registry.select (d.pathOf request) = .ok entries) :
    d.observed.dispatch request = (do
      report (d.registry.selected (d.pathOf request) entries.length)
      d.observed.dispatchWith (Chain.ofList ((entries.map Placed.ofEntry).map Placed.observed))
        request (d.pathOf request)) := by
  have chosen : d.observed.registry.chainFor (d.observed.pathOf request) = _ :=
    Registry.chainFor_observed_of_select h
  rw [dispatch, chosen]
  rfl

theorem observed_dispatch_of_select_error {e : PatternError}
    (h : d.registry.select (d.pathOf request) = .error e) :
    d.observed.dispatch request = pure (.error (.pattern e)) := by
  have chosen : d.observed.registry.chainFor (d.observed.pathOf request) = .error e :=
    Registry.chainFor_observed_of_select_error h
  rw [dispatch, chosen]

/-- Under observation the request with the insertions echoes the one without. -/
theorem dispatch_echo (split : rs.filterMap original? = d.registry.mappings)
    (h : d.IgnoresJournal) (insertions : ∀ m, inserted m ∈ rs → d.PassesThrough request m) :
    Simulates (echo σ (originalPosition rs)).exchange Eq (d.observed.dispatch request)
      ((d.registering (rs.map Registration.mapping)).observed.dispatch request) := by
  have outcome := select_registering split h insertions
  generalize own : d.registry.select (d.pathOf request) = selected at outcome
  generalize other : (d.registering (rs.map Registration.mapping)).registry.select
    (d.pathOf request) = selected' at outcome
  cases outcome with
  | error e =>
      rw [observed_dispatch_of_select_error own, observed_dispatch_of_select_error other]
      exact .pure rfl
  | ok padded =>
      rw [observed_dispatch_of_select own, observed_dispatch_of_select other]
      apply (Simulates.report _ _ _).bind
      intro _ _ _
      exact dispatchWith_simulates (h.observed _) (padded_observed padded) request _

/-- Interceptors that let everything pass may be registered anywhere between the others, for any
paths: a request has the same result, takes the same time, and leaves the same response and the same
world behind. The same calls of the handler, of views and of the other interceptors are made, in the
same order, on the same exchanges and with the same answers, models and errors. Only the journals
differ, which nothing reads. -/
theorem dispatch_registering (split : rs.filterMap original? = d.registry.mappings)
    (h : d.IgnoresJournal) (insertions : ∀ m, inserted m ∈ rs → d.PassesThrough request m)
    (x : Exchange σ) :
    Run.Related Exchange.Alike Eq (d.dispatch request x)
        ((d.registering (rs.map Registration.mapping)).dispatch request x) ∧
      List.Forall₂ Call.Alike (d.log request x)
        (((d.registering (rs.map Registration.mapping)).log request x).filterMap
          (Call.renumbered (originalPosition rs))) := by
  have start : (echo σ (originalPosition rs)).exchange (x.logged []) (x.logged []) :=
    ⟨x, x, [], [], rfl, rfl, ⟨rfl, rfl⟩, .nil⟩
  have run := dispatch_echo split h insertions _ _ start
  constructor
  · rw [← dispatch_observed d request x, ← dispatch_observed (d.registering _) request x]
    apply run.mapState
    rintro _ _ ⟨y, y', calls, calls', rfl, rfl, alike, _⟩
    exact alike
  · obtain ⟨y, y', calls, calls', own, other, _, echoed⟩ := run.state
    rw [log, log, own, other]
    exact echoed

/-- The registrations of `refusing`, with interceptors put in that let everything pass. -/
def accompanied : List (Registration Unit) :=
  [.inserted (.everywhere (.timeout 5 (.logging "outer"))), .original (.everywhere .passThrough),
    .inserted ⟨.logging "inner", some ["/**"], none, none⟩, .original (.everywhere .refusing),
    .inserted (.everywhere WebInterceptor.passThrough.toInterceptor)]

theorem ignoresJournal_refusing : refusing.IgnoresJournal where
  interceptors := by
    intro m mem
    obtain rfl | rfl := List.mem_pair.mp mem
    · exact ⟨fun _ _ => .pure rfl, fun _ _ => .pure rfl, fun _ _ _ => .pure rfl⟩
    · exact ⟨fun _ _ => .pure rfl, fun _ _ => .pure rfl, fun _ _ _ => .pure rfl⟩
  handler _ := .pure (.ok ⟨rfl, fun _ none => by cases none⟩)
  views _ _ found := by cases found

theorem dispatch_registering_accompanied :
    Run.Related Exchange.Alike Eq (refusing.dispatch ⟨"GET", "/", ∅⟩ (.start ()))
        ((refusing.registering (accompanied.map Registration.mapping)).dispatch ⟨"GET", "/", ∅⟩
          (.start ())) ∧
      List.Forall₂ Call.Alike (refusing.log ⟨"GET", "/", ∅⟩ (.start ()))
        (((refusing.registering (accompanied.map Registration.mapping)).log ⟨"GET", "/", ∅⟩
          (.start ())).filterMap (Call.renumbered (originalPosition accompanied))) := by
  refine dispatch_registering rfl ignoresJournal_refusing ?_ (.start ())
  intro m mem
  simp only [accompanied, List.mem_cons, Registration.inserted.injEq, reduceCtorEq, false_or,
    List.not_mem_nil, or_false] at mem
  obtain rfl | rfl | rfl := mem
  · exact ⟨.timeout 5 (.logging "outer"), true, rfl⟩
  · exact ⟨.logging "inner", true, rfl⟩
  · exact ⟨.web, true, rfl⟩

end Dispatcher

end Interception
