import Interception.Proofs.Course
import Interception.Testing.Views

/-!
# The view stage of a request

When the handler and all interceptors around it have ended well, what is left of the handler's
answer decides how the request ends. Without a view nothing is rendered and the exchange stays as
the last interceptor left it. A view that is not found is an error and changes nothing either.
Otherwise the status is set, if there is one, and the view is rendered once with the model as it is
then.

Completion comes after all of this and may act upon the response again. `Ends` therefore tells the
exchange that the view stage leaves, as the one from which the rest of the request is run.
-/

namespace Interception

variable {σ : Type}

/-! ## Hooks under observation -/

/-- Hooks that end as hoped for do so under observation, and only calls of their own are entered. -/
theorem Through.observed {S T α ι : Type} {o : Observation σ S T} {fine : α} {turns : List ι}
    {hook : ι → Activity S α} (entry : ι → S → α → Call σ) {s t : S}
    (all : Through fine (turns.map hook) s t) (log : List (Call σ)) :
    ∃ calls, Through fine (turns.map fun i => o.call (entry i) (hook i)) (o.logged s log)
        (o.logged t (log ++ calls)) ∧ ∀ call ∈ calls, ∃ i on answer, call = entry i on answer := by
  induction turns generalizing s log with
  | nil =>
      obtain rfl := through_nil_iff.mp all
      refine ⟨[], ?_, by simp⟩
      rw [List.append_nil]
      exact .done _
  | cons i turns ih =>
      obtain ⟨own, rest⟩ := through_cons_iff.mp all
      obtain ⟨calls, through, entered⟩ := ih rest (log ++ [entry i s (hook i s).result])
      refine ⟨entry i s (hook i s).result :: calls, .next ?_ ?_, ?_⟩
      · rw [Observation.result_call, own]
      · rw [Observation.state_call]
        simpa using through
      · rintro call (_ | ⟨_, mem⟩)
        · exact ⟨i, s, _, rfl⟩
        · exact entered call mem

/-- Whether a view is called. -/
def Call.isRender : Call σ → Bool
  | .render .. => true
  | _ => false

theorem filter_isRender_eq_nil {calls : List (Call σ)}
    (h : ∀ call ∈ calls, call.isRender = false) : calls.filter Call.isRender = [] := by
  rw [List.filter_eq_nil_iff]
  intro call mem
  simp [h call mem]

/-! ## After the view -/

namespace Dispatcher

/-- What is done after the view stage: the interceptors are completed, the last one first, and a
failure is reported. -/
def closing (d : Dispatcher σ) (request : Request) (interceptors : List (Interceptor σ))
    (result : Except DispatchError Unit) : Activity (Exchange σ) Unit := do
  Chain.completeAll request d.handlerRef ((errorOf result).map DispatchError.toFailure)
    interceptors.reverse
  match result with
  | .ok () => pure ()
  | .error e => report (failed request (d.pathOf request) e)

/-- The interceptors that are selected for a path, in order. -/
def interceptorsOf (entries : List (Mapping σ × Nat)) : List (Interceptor σ) :=
  entries.map fun entry => entry.1.interceptor

variable {d : Dispatcher σ} {request : Request} {x on left : Exchange σ}
variable {mav : Option (ModelAndView σ)} {result : Except DispatchError Unit}

theorem handle_of_answered {interceptors : List (Interceptor σ)} {y : Exchange σ}
    {answer : Option (ModelAndView σ)} {s : Exchange σ × Option (ModelAndView σ)}
    (before : Through (.ok true) (Agenda.ofList interceptors request d.handlerRef).before x y)
    (answered : (d.handler request y).result = .ok answer)
    (after : Through (.ok ()) (Agenda.ofList interceptors request d.handlerRef).after
      ((d.handler request y).state, answer) s) :
    let run := d.handle (.ofList interceptors) request x
    run.result = ((d.renderAnswer s.2 request s.1).result, Chain.between interceptors []) ∧
      run.state = (d.renderAnswer s.2 request s.1).state := by
  obtain ⟨begun, reached⟩ := Chain.preHandle_of_through before
  obtain ⟨fine, ended⟩ := Chain.postHandleAll_of_through after
  simp only [handle, Activity.bind_apply, Run.result_bind, Run.state_bind, begun, reached,
    answered, Activity.withPart, Run.result_withPart, Run.state_withPart, Chain.postHandle,
    Chain.between, List.append_nil, fine, ended]
  exact ⟨rfl, rfl⟩

/-- A request that got past all interceptors is closed from where it was left. -/
theorem dispatchWith_state_of_handle {interceptors : List (Interceptor σ)}
    (ended : (d.handle (.ofList interceptors) request
      (x.report (dispatching request (d.pathOf request) interceptors.length))).result =
        (result, Chain.between interceptors []))
    (reached : (d.handle (.ofList interceptors) request
      (x.report (dispatching request (d.pathOf request) interceptors.length))).state = left) :
    (d.dispatchWith (.ofList interceptors) request (d.pathOf request) x).state =
      (d.closing request interceptors result left).state := by
  have due : (Chain.between interceptors []).due = interceptors.reverse :=
    Chain.due_between interceptors []
  have length : (Chain.ofList interceptors).interceptors.length = interceptors.length := rfl
  simp only [dispatchWith, closing, Chain.complete, report, Activity.change, Activity.bind_apply,
    Activity.pure_apply, Run.bind_done, Run.state_bind, Run.state_done, length, ended, reached,
    due]
  cases result with
  | ok => rfl
  | error e => rfl

/-- From the view stage on a request runs to its end without anything else that decides. -/
theorem dispatch_state_of_leaves {entries : List (Mapping σ × Nat)}
    (selected : d.registry.select (d.pathOf request) = .ok entries)
    (leaves : d.Leaves request x (on, mav))
    (stage : d.renderAnswer mav request on = .done result left) :
    (d.dispatch request x).state =
      (d.closing request (interceptorsOf entries) result left).state := by
  obtain ⟨agenda, ⟨_, answer⟩, ⟨y, ⟨planned, before⟩, answered, rfl⟩, after⟩ := leaves
  obtain ⟨entries', selected', rfl⟩ := agenda_eq_ok_iff.mp planned
  obtain rfl := Except.ok.inj (selected.symm.trans selected')
  rw [before_ofList_length] at before
  obtain ⟨ended, reached⟩ := handle_of_answered before answered after
  rw [stage] at ended reached
  have chosen : d.registry.chainFor (d.pathOf request) =
      .ok (.ofList (interceptorsOf entries),
        d.registry.selected (d.pathOf request) (interceptorsOf entries).length) := by
    simp only [Registry.chainFor, Registry.matching, selected, interceptorsOf, List.length_map]
    rfl
  simp only [dispatch, chosen, report, Activity.change, Activity.bind_apply, Run.bind_done]
  exact dispatchWith_state_of_handle ended reached

/-! ## The calls of views -/

theorem opened_observed (d : Dispatcher σ) (request : Request) (count : Nat) (x : Exchange σ)
    (log : List (Call σ)) :
    d.observed.opened request count (x.logged log) = (d.opened request count x).logged log := by
  have registered : d.registry.observed.mappings.length = d.registry.mappings.length := by
    simp [Registry.observed]
  have reported (path : String) :
      d.registry.observed.selected path count = d.registry.selected path count := by
    rw [Registry.selected, Registry.selected, registered]
  show ((x.logged log).report (d.registry.observed.selected (d.pathOf request) count)).report
    (dispatching request (d.pathOf request) count) = _
  rw [reported]
  rfl

theorem agenda_observed {entries : List (Mapping σ × Nat)}
    (selected : d.registry.select (d.pathOf request) = .ok entries) :
    d.observed.agenda request =
      .ok (.ofList (entries.map fun e => e.1.interceptor.observed e.2) request d.handlerRef) := by
  have selected' := d.registry.select_observed (d.pathOf request)
  rw [selected] at selected'
  refine agenda_eq_ok_iff.mpr ⟨_, selected', ?_⟩
  rw [List.map_map]
  rfl

theorem handler_observed {y : Exchange σ} {answer : Option (ModelAndView σ)}
    (answered : (d.handler request y).result = .ok answer) (log : List (Call σ)) :
    (d.observed.handler request (y.logged log)).result =
        .ok (answer.map ModelAndView.observed) ∧
      (d.observed.handler request (y.logged log)).state =
        (d.handler request y).state.logged (log ++ [.handle request y (.ok answer)]) := by
  have result := Observation.exchange.result_call (.handle request) (d.handler request) y log
  have state := Observation.exchange.state_call (.handle request) (d.handler request) y log
  rw [answered] at result state
  constructor
  · exact (Run.result_bind _ _).trans (congrArg (Except.map _) result)
  · exact (Run.state_bind _ _).trans state

/-- What leads up to the view stage does so under observation, and no view is called on the way. -/
theorem Leaves.observed (leaves : d.Leaves request x (on, mav)) :
    ∃ calls, d.observed.Leaves request (x.logged [])
        (on.logged calls, mav.map ModelAndView.observed) ∧
      ∀ call ∈ calls, call.isRender = false := by
  obtain ⟨agenda, ⟨_, answer⟩, ⟨y, ⟨planned, before⟩, answered, rfl⟩, after⟩ := leaves
  obtain ⟨entries, selected, rfl⟩ := agenda_eq_ok_iff.mp planned
  simp only [Agenda.ofList, List.map_map, List.length_map, ← List.map_reverse] at before after
  obtain ⟨first, before, entered⟩ :=
    Through.observed (o := .exchange) (fun e => .preHandle e.2 request) before []
  obtain ⟨last, after, entered'⟩ :=
    Through.observed (o := .answer) (fun e s => .postHandle e.2 request s.1 s.2) after
      (first ++ [.handle request y (.ok answer)])
  obtain ⟨answered, handled⟩ := handler_observed answered first
  refine ⟨first ++ [.handle request y (.ok answer)] ++ last,
    ⟨_, (_, _), ⟨y.logged first, ⟨agenda_observed selected, ?_⟩, answered, handled⟩, ?_⟩, ?_⟩
  · simp only [Agenda.ofList, List.map_map, List.length_map, opened_observed]
    exact before
  · simp only [Agenda.ofList, List.map_map, ← List.map_reverse]
    exact after
  · intro call mem
    simp only [List.mem_append, List.mem_singleton] at mem
    obtain (mem | rfl) | mem := mem
    · obtain ⟨_, _, _, rfl⟩ := entered call mem
      rfl
    · rfl
    · obtain ⟨_, _, _, rfl⟩ := entered' call mem
      rfl

/-- No view is called after the view stage. -/
theorem closing_observed (d : Dispatcher σ) (request : Request)
    (entries : List (Mapping σ × Nat)) (result : Except DispatchError Unit) :
    Observes .exchange id (d.closing request (interceptorsOf entries) result)
      (d.observed.closing request
        (interceptorsOf (entries.map fun e => (e.1.observed e.2, e.2))) result)
      fun calls _ => ∀ call ∈ calls, call.isRender = false := by
  have completed := Observes.completeAll request d.handlerRef
    ((errorOf result).map DispatchError.toFailure) (entries.map Placed.ofEntry).reverse
  simp only [← List.map_reverse, List.map_map] at completed
  simp only [closing, interceptorsOf, ← List.map_reverse, List.map_map]
  refine Observes.bind completed ?_
  intro _ calls turns
  have others : ∀ call ∈ calls, call.isRender = false := by
    intro call mem
    obtain ⟨_, _, _, rfl⟩ := exists_of_mem_forall₂ turns mem
    rfl
  cases result with
  | ok => exact Observes.pure (by simpa using others)
  | error e =>
      refine (Observes.report _).mono ?_
      rintro _ _ rfl
      simpa using others

/-- How a request ends that got to its view stage: its result, the calls of views, and the exchange
that the view stage leaves. From there all interceptors are completed and a failure is reported. -/
structure Ends (d : Dispatcher σ) (request : Request) (x : Exchange σ)
    (result : Except DispatchError Unit) (rendered : List (Call σ)) (left : Exchange σ) : Prop where
  result_eq : (d.dispatch request x).result = result
  filter_log : (d.log request x).filter Call.isRender = rendered
  closed : ∃ entries, d.registry.select (d.pathOf request) = .ok entries ∧
    (d.dispatch request x).state = (d.closing request (interceptorsOf entries) result left).state

/-- A request ends as its view stage does. -/
theorem ends_of_leaves {rendered : List (Call σ)} (leaves : d.Leaves request x (on, mav))
    (stage : d.renderAnswer mav request on = .done result left)
    (observed : ∀ log, d.observed.renderAnswer (mav.map ModelAndView.observed) request
      (on.logged log) = .done result (left.logged (log ++ rendered)))
    (calls : ∀ call ∈ rendered, call.isRender = true) :
    d.Ends request x result rendered left := by
  have planned : ∃ entries, d.registry.select (d.pathOf request) = .ok entries := by
    obtain ⟨agenda, _, ⟨_, ⟨planned, _⟩, _⟩, _⟩ := leaves
    obtain ⟨entries, selected, _⟩ := agenda_eq_ok_iff.mp planned
    exact ⟨entries, selected⟩
  obtain ⟨entries, selected⟩ := planned
  refine ⟨?_, ?_, entries, selected, dispatch_state_of_leaves selected leaves stage⟩
  · rw [dispatch_of_leaves leaves, stage, Run.result_done]
  · have selected' := d.registry.select_observed (d.pathOf request)
    rw [selected] at selected'
    obtain ⟨before, leaves', others⟩ := leaves.observed
    have state := dispatch_state_of_leaves selected' leaves' (observed before)
    obtain ⟨after, _, _, state', others'⟩ :=
      closing_observed d request entries result left (before ++ rendered)
    have log : d.log request x = before ++ rendered ++ after := by
      rw [Dispatcher.log, state]
      exact congrArg Exchange.calls state'
    rw [log, List.filter_append, List.filter_append, filter_isRender_eq_nil others,
      filter_isRender_eq_nil others', List.filter_eq_self.mpr calls, List.nil_append,
      List.append_nil]

end Dispatcher

/-! ## Views by name -/

/-- The view that a reference means where views have been registered one after the other: a later
registration of a name replaces an earlier one. -/
inductive ViewRef.Means (registrations : Option (List (String × View σ))) :
    ViewRef σ → View σ → Prop where
  | resolved (view : View σ) : Means registrations (.resolved view) view
  | named {name : String} {view : View σ} {earlier later : List (String × View σ)}
      (own : registrations = some (earlier ++ (name, view) :: later))
      (last : ∀ other ∈ later, other.1 ≠ name) : Means registrations (.named name) view

/-- A name that has not been registered, or for which there is no registry. -/
def Unregistered (registrations : Option (List (String × View σ))) (name : String) : Prop :=
  ∀ views, registrations = some views → ∀ entry ∈ views, entry.1 ≠ name

namespace ViewRegistryBuilder

theorem views_registerAll (builder : ViewRegistryBuilder σ) (views : List (String × View σ)) :
    (builder.registerAll views).views = builder.views.insertAll views := by
  induction views generalizing builder with
  | nil => rfl
  | cons entry views ih => exact ih (builder.register entry.1 entry.2)

/-- A registry finds what the last registration of a name has put there. -/
theorem resolveViewName_registerAll (views : List (String × View σ)) (name : String) :
    (empty.registerAll views).build.resolveViewName name = (Dict.ofList views).get? name := by
  rw [ViewRegistry.resolveViewName, build, views_registerAll]
  rfl

end ViewRegistryBuilder

namespace Dispatcher

variable {d : Dispatcher σ} {request : Request} {x on : Exchange σ}
variable {mav : Option (ModelAndView σ)} {m : ModelAndView σ}
variable {registrations : Option (List (String × View σ))}

theorem resolve_of_means {ref : ViewRef σ} {view : View σ}
    (views : d.resolver = registrations.map fun entries =>
      (ViewRegistryBuilder.empty.registerAll entries).build.resolveViewName)
    (means : ref.Means registrations view) : d.resolve ref = .ok view := by
  cases means with
  | resolved => rfl
  | @named name view earlier later own last =>
      have found : (Dict.ofList (earlier ++ (name, view) :: later)).get? name = some view :=
        Dict.get?_ofList_eq_some_iff.mpr ⟨earlier, later, rfl, last⟩
      simp only [resolve, views, own, Option.map_some, Option.bind_some,
        ViewRegistryBuilder.resolveViewName_registerAll, found]

theorem resolve_of_unregistered {name : String}
    (views : d.resolver = registrations.map fun entries =>
      (ViewRegistryBuilder.empty.registerAll entries).build.resolveViewName)
    (missing : Unregistered registrations name) :
    d.resolve (.named name) = .error (.unresolvedView name) := by
  refine resolve_named_eq_error_iff.mpr ⟨?_, rfl⟩
  rw [views]
  cases registrations with
  | none => rfl
  | some entries =>
      rw [Option.map_some, Option.bind_some, ViewRegistryBuilder.resolveViewName_registerAll,
        Dict.get?_ofList, List.lookup_eq_none_iff]
      intro entry mem
      exact bne_iff_ne.mpr (missing entries rfl entry (List.mem_reverse.mp mem)).symm

/-! ## The stage -/

theorem ends_of_no_view (leaves : d.Leaves request x (on, mav))
    (missing : ∀ m, mav = some m → m.view = none) : d.Ends request x (.ok ()) [] on := by
  refine ends_of_leaves leaves (renderAnswer_of_no_view missing) (fun log => ?_) (by simp)
  rw [List.append_nil]
  apply renderAnswer_of_no_view
  intro m' own
  obtain ⟨m, rfl, rfl⟩ := Option.map_eq_some_iff.mp own
  rw [ModelAndView.observed, ModelAndView.mapView, missing m rfl]
  rfl

theorem view_observed {ref : ViewRef σ} (chosen : m.view = some ref) :
    m.observed.view = some (ref.map View.observed) := by
  rw [ModelAndView.observed, ModelAndView.mapView, chosen, Option.map_some]

theorem ends_of_unresolved {ref : ViewRef σ} {e : DispatchError}
    (leaves : d.Leaves request x (on, some m)) (chosen : m.view = some ref)
    (missing : d.resolve ref = .error e) : d.Ends request x (.error e) [] on := by
  refine ends_of_leaves leaves ?_ (fun log => ?_) (by simp)
  · rw [renderAnswer_of_view chosen, render_of_unresolved chosen missing]
  · have missing' := d.resolve_observed ref
    rw [missing] at missing'
    rw [List.append_nil, Option.map_some, renderAnswer_of_view (view_observed chosen),
      render_of_unresolved (view_observed chosen) missing']

theorem ends_of_resolve {ref : ViewRef σ} {view : View σ}
    (leaves : d.Leaves request x (on, some m)) (chosen : m.view = some ref)
    (found : d.resolve ref = .ok view) :
    let outcome := view.render (some m.model) request (readyFor m on)
    d.Ends request x (outcome.1.mapError .render)
      [.render (some m.model) request (readyFor m on) outcome.1] outcome.2 := by
  intro outcome
  refine ends_of_leaves leaves ?_ (fun log => ?_) (by simp [Call.isRender])
  · rw [renderAnswer_of_view chosen, render_of_resolve chosen found]
  · have found' := d.resolve_observed ref
    rw [found] at found'
    rw [Option.map_some, renderAnswer_of_view (view_observed chosen),
      render_of_resolve (view_observed chosen) found', readyFor_observed]
    rfl

end Dispatcher

/-! ## Changes of a model-and-view -/

namespace ModelAction

variable {m : ModelAndView σ}

theorem view_run_eq_none {action : ModelAction σ} (h : m.view = none)
    (other : ∀ ref, action ≠ .setView ref) : (action.run m).view = none := by
  cases action with
  | add => exact h
  | remove => exact h
  | setView ref => exact absurd rfl (other ref)
  | status code =>
      simp only [run]
      split
      · exact h
      · exact h
  | clear => rfl

theorem view_runAll_eq_none {actions : List (ModelAction σ)} (h : m.view = none)
    (others : ∀ action ∈ actions, ∀ ref, action ≠ .setView ref) :
    (runAll actions m).view = none := by
  induction actions generalizing m with
  | nil => exact h
  | cons action actions ih =>
      have own := view_run_eq_none h (others action List.mem_cons_self)
      exact ih own fun later mem => others later (List.mem_cons_of_mem action mem)

end ModelAction

namespace Dispatcher

variable {d : Dispatcher σ} {request : Request} {x on : Exchange σ}
variable {mav : Option (ModelAndView σ)} {registrations : Option (List (String × View σ))}

/-- What the handler has answered, as the interceptors leave it, decides how a request ends that got
so far. Without a view, as when it was cleared and has had no view since, nothing is rendered and
the exchange stays as it was left. With a name that is not registered the request fails and the
exchange stays as well. Otherwise the view that is meant, for a name that of its last registration,
is rendered once, with the model as it was left, to a response that has the status of the
model-and-view, if that has one, and is otherwise as it was left. The request succeeds if that
does. -/
theorem dispatch_view_stage
    (views : d.resolver = registrations.map fun entries =>
      (ViewRegistryBuilder.empty.registerAll entries).build.resolveViewName)
    (leaves : d.Leaves request x (on, mav)) :
    ((∀ m, mav = some m → m.view = none) → d.Ends request x (.ok ()) [] on) ∧
      (∀ (m : ModelAndView σ) changes, mav = some (ModelAction.runAll changes m.clear) →
        (∀ change ∈ changes, ∀ ref, change ≠ .setView ref) → d.Ends request x (.ok ()) [] on) ∧
      (∀ m name, mav = some m → m.view = some (.named name) → Unregistered registrations name →
        d.Ends request x (.error (.unresolvedView name)) [] on) ∧
      ∀ m ref view, mav = some m → m.view = some ref → ref.Means registrations view →
        let ready : Exchange σ :=
          { on with response := { on.response with
              status := m.status.getD on.response.status } }
        let outcome := view.render (some m.model) request ready
        d.Ends request x (outcome.1.mapError .render)
            [.render (some m.model) request ready outcome.1] outcome.2 ∧
          ((d.dispatch request x).result = .ok () ↔ outcome.1 = .ok ()) := by
  refine ⟨ends_of_no_view leaves, ?_, ?_, ?_⟩
  · rintro m changes rfl others
    refine ends_of_no_view leaves ?_
    rintro _ ⟨⟩
    exact ModelAction.view_runAll_eq_none rfl others
  · rintro m name rfl chosen missing
    exact ends_of_unresolved leaves chosen (resolve_of_unregistered views missing)
  · rintro m ref view rfl chosen means ready outcome
    have ends := ends_of_resolve leaves chosen (resolve_of_means views means)
    rw [readyFor_eq] at ends
    refine ⟨ends, ?_⟩
    rw [ends.result_eq]
    cases (view.render (some m.model) request ready).1 with
    | ok => simp [Except.mapError]
    | error e => simp [Except.mapError]

/-- An interceptor that acts upon what the handler has answered. -/
def acting (actions : List (ModelAction σ)) : Interceptor σ :=
  { Interceptor.passThrough with
    postHandle := fun _ _ => .change (fun s => (s.1, s.2.map (ModelAction.runAll actions))) >>=
      fun _ => pure (.ok ()) }

/-- A dispatcher whose second interceptor clears what the handler has answered, before the first one
names a view of which there are two. -/
def replacing : Dispatcher Unit where
  registry := ⟨[.everywhere (acting [.setView (.named "page"), .add "title" (.str "Gone")]),
    .everywhere (acting [.clear, .status (some 410)])], AntMatcher.default.toPathMatcher⟩
  handler _ := pure (.ok (some (.setView .empty (.named "other"))))
  handlerRef := ⟨none⟩
  resolver := some ((ViewRegistryBuilder.empty.register "page"
    (Testing.brokenView (.ofMessage "replaced"))).register "page"
      (Testing.plainView "gone")).build.resolveViewName
  lookup := .default

theorem dispatch_view_stage_of_replaced :
    let request : Request := ⟨"GET", "/", ∅⟩
    let views : List (String × View Unit) := [("page", Testing.brokenView (.ofMessage "replaced")),
      ("page", Testing.plainView "gone")]
    let on := replacing.opened request 2 (.start ())
    let m : ModelAndView Unit := ⟨some (.named "page"), Dict.ofList [("title", .str "Gone")],
      some ⟨410, by decide⟩, true⟩
    let ready := on.setStatus ⟨410, by decide⟩
    replacing.resolver = (some views).map (fun entries =>
        (ViewRegistryBuilder.empty.registerAll entries).build.resolveViewName) ∧
      replacing.Leaves request (.start ()) (on, some m) ∧
      replacing.Ends request (.start ()) (.ok ()) [.render (some m.model) request ready (.ok ())]
        { ready with response := ready.response.write "gone".toUTF8 } := by
  intro request views on m ready
  have resolver : replacing.resolver =
      (some views).map fun entries =>
        (ViewRegistryBuilder.empty.registerAll entries).build.resolveViewName := rfl
  have leaves : replacing.Leaves request (.start ()) (on, some m) :=
    ⟨_, (on, some (.setView .empty (.named "other"))),
      ⟨on, ⟨rfl, .next rfl (.next rfl (.done on))⟩, rfl, rfl⟩, .next rfl (.next rfl (.done _))⟩
  have last : some views = some ([("page", Testing.brokenView (.ofMessage "replaced"))] ++
      ("page", Testing.plainView "gone") :: []) := rfl
  have means : (ViewRef.named "page").Means (some views) (Testing.plainView "gone") :=
    .named last (by simp)
  obtain ⟨_, _, _, stage⟩ := dispatch_view_stage resolver leaves
  exact ⟨resolver, leaves, (stage m _ _ rfl rfl means).1⟩

end Dispatcher

end Interception
