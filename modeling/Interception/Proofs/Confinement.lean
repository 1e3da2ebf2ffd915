import Interception.Interceptor.Web
import Interception.Proofs.Accounting
import Interception.Proofs.ViewStage

/-!
# What web interceptors cannot do

A web interceptor is handed the model of what the handler has answered, and nothing else of the
answer. Whatever it does with the model, the view and the status stay as they are, and so does the
mark of an answer that has been cleared. While the answer counts as cleared there is no model to be
handed: the web interceptor is called without one, and the answer stays cleared. So once an answer
has been cleared, nothing is rendered if all interceptors that are called after that are web
interceptors.

A web interceptor cannot refuse a request either.
-/

namespace Interception

variable {σ : Type}

namespace ModelAndView

variable {m m' m'' : ModelAndView σ}

/-- Nothing but the model differs. -/
structure SameButModel (m m' : ModelAndView σ) : Prop where
  view_eq : m'.view = m.view
  status_eq : m'.status = m.status
  cleared_eq : m'.cleared = m.cleared

theorem SameButModel.refl (m : ModelAndView σ) : m.SameButModel m := ⟨rfl, rfl, rfl⟩

theorem SameButModel.trans (h : m.SameButModel m') (h' : m'.SameButModel m'') :
    m.SameButModel m'' :=
  ⟨h'.view_eq.trans h.view_eq, h'.status_eq.trans h.status_eq, h'.cleared_eq.trans h.cleared_eq⟩

theorem view_eq_none_of_wasCleared (h : m.wasCleared = true) : m.view = none := by
  rw [wasCleared, isEmpty, Bool.and_eq_true, Bool.and_eq_true, Option.isNone_iff_eq_none] at h
  exact h.2.1

end ModelAndView

/-! ## Calls of web interceptors -/

namespace WebInterceptor

variable {web : WebInterceptor σ} {request : Request} {handler : HandlerRef} {x : Exchange σ}
variable {m : ModelAndView σ}

/-- Of an answer that has been cleared the web interceptor sees nothing, and it changes nothing. -/
theorem postHandle_of_wasCleared (cleared : m.wasCleared = true) :
    web.toInterceptor.postHandle request handler (x, some m) =
      (web.postHandle request (x, none)).mapState fun s => (s.1, some m) := by
  have hidden : visibleModel (some m) = none := by
    simp [visibleModel, Option.filter_some, cleared]
  have kept (model : Option Model) : replaceModel (some m) model = some m := by
    cases model <;> simp [replaceModel, cleared]
  simp only [toInterceptor, hidden, kept]

/-- Of any other answer the web interceptor sees the model, and it changes nothing else. -/
theorem postHandle_of_not_wasCleared (kept : m.wasCleared = false) :
    web.toInterceptor.postHandle request handler (x, some m) =
      (web.postHandle request (x, some m.model)).mapState fun s =>
        (s.1, some { m with model := s.2.getD m.model }) := by
  have seen : visibleModel (some m) = some m.model := by
    simp [visibleModel, Option.filter_some, kept]
  have replaced (model : Option Model) :
      replaceModel (some m) model = some { m with model := model.getD m.model } := by
    cases model <;> simp [replaceModel, kept]
  simp only [toInterceptor, seen, replaced]

/-- Before the handler the web interceptor takes its course, and success lets the request go on. -/
theorem preHandle_eq_map :
    web.toInterceptor.preHandle request handler x =
      (web.preHandle request x).map (Except.map fun () => true) := by
  rw [← Run.bind_done_eq_map]
  show (web.preHandle request x).bind _ = _
  congr 1
  funext answer s
  cases answer <;> rfl

end WebInterceptor

/-- A call of a web interceptor after the handler, on some exchange. -/
structure WebCall (σ : Type) where
  web : WebInterceptor σ
  request : Request
  handler : HandlerRef
  on : Exchange σ

namespace WebCall

variable {call : WebCall σ} {m : ModelAndView σ}

/-- The run of the call on an answer. -/
def run (call : WebCall σ) (mav : Option (ModelAndView σ)) :
    Run (Exchange σ × Option (ModelAndView σ)) (Except Failure Unit) :=
  call.web.toInterceptor.postHandle call.request call.handler (call.on, mav)

/-- The run of what is adapted, without a model. -/
def runWithout (call : WebCall σ) : Run (Exchange σ × Option Model) (Except Failure Unit) :=
  call.web.postHandle call.request (call.on, none)

/-- What calls leave of an answer, one after the other and however each of them ends. -/
def leave (calls : List (WebCall σ)) (mav : Option (ModelAndView σ)) : Option (ModelAndView σ) :=
  calls.foldl (fun mav call => (call.run mav).state.2) mav

theorem run_of_wasCleared (cleared : m.wasCleared = true) :
    call.run (some m) = call.runWithout.mapState fun s => (s.1, some m) :=
  WebInterceptor.postHandle_of_wasCleared cleared

theorem exists_state_run (call : WebCall σ) (m : ModelAndView σ) :
    ∃ left, (call.run (some m)).state.2 = some left ∧ m.SameButModel left := by
  cases cleared : m.wasCleared with
  | true =>
      rw [run_of_wasCleared cleared, Run.state_mapState]
      exact ⟨m, rfl, .refl m⟩
  | false =>
      rw [run, WebInterceptor.postHandle_of_not_wasCleared cleared, Run.state_mapState]
      exact ⟨_, rfl, rfl, rfl, rfl⟩

theorem exists_leave (calls : List (WebCall σ)) (m : ModelAndView σ) :
    ∃ left, leave calls (some m) = some left ∧ m.SameButModel left := by
  induction calls generalizing m with
  | nil => exact ⟨m, rfl, .refl m⟩
  | cons call calls ih =>
      obtain ⟨between, own, same⟩ := exists_state_run call m
      obtain ⟨left, rest, same'⟩ := ih between
      refine ⟨left, ?_, same.trans same'⟩
      rw [leave, List.foldl_cons, own]
      exact rest

theorem leave_of_wasCleared (cleared : m.wasCleared = true) (calls : List (WebCall σ)) :
    leave calls (some m) = some m := by
  induction calls with
  | nil => rfl
  | cons call calls ih =>
      rw [leave, List.foldl_cons, run_of_wasCleared cleared, Run.state_mapState]
      exact ih

end WebCall

/-! ## Requests whose answer is cleared -/

section Lifecycle

variable {d : Dispatcher σ} {request : Request} {selected : List (Placed σ)}
variable {phases : Phases σ} {calls : List (Call σ)} {failure : Failure}

theorem firstError_of_forall_passed (h : ∀ call ∈ calls, call.passed = true) :
    firstError calls = none := by
  rw [firstError, List.findSome?_eq_none_iff]
  intro call mem
  by_contra ne
  obtain ⟨e, error⟩ := Option.ne_none_iff_exists'.mp ne
  have stop := (Call.not_passed_not_isRefusal_of_error error).1
  rw [h call mem] at stop
  cases stop

/-- A view is not rendered where an interceptor fails. -/
theorem Phases.Lawful.rendering_eq_nil
    (h : phases.Lawful d request selected (.error (.interceptor failure))) :
    phases.rendering = [] := by
  by_contra ne
  obtain ⟨⟨call, mem, pass⟩, after⟩ := h.of_rendering ne
  have before : passes phases.before = selected.length := by
    by_contra some
    rw [h.not_handled some] at mem
    cases mem
  obtain ⟨own, handling, _⟩ := h.handled before
  obtain rfl : call = own := by rwa [handling, List.mem_singleton] at mem
  obtain ⟨render, rendering, made⟩ := h.rendering.resolve_left ne
  have turns := h.after ⟨call, mem, pass⟩
  rw [← List.length_reverse] at after
  -- All that comes before the view went well, so that the failure would be one of the view.
  have fine : firstError (phases.before ++ phases.handling ++ phases.after) = none := by
    refine firstError_of_forall_passed ?_
    simp only [List.forall_mem_append, handling, List.forall_mem_singleton]
    exact ⟨⟨h.before.forall_passed before, pass⟩, turns.forall_passed after⟩
  have outcome := h.outcome
  rw [Dispatcher.IsOutcome, Phases.steps, firstError_append, fine, Option.none_or, rendering]
    at outcome
  obtain ⟨view, model, on, rfl⟩ := made
  cases answer : (view.render (some model) request on).1 with
  | ok => simp [firstError, Call.error?, answer] at outcome
  | error e => simp [firstError, Call.error?, answer] at outcome

/-- The calls of such a request are none of views. -/
theorem IsLifecycle.filter_isRender
    (h : IsLifecycle d request selected calls (.error (.interceptor failure))) :
    calls.filter Call.isRender = [] := by
  obtain ⟨phases, completion, rfl, lawful, completed⟩ := h
  refine filter_isRender_eq_nil ?_
  intro call mem
  simp only [Phases.steps, lawful.rendering_eq_nil, List.append_nil, List.mem_append] at mem
  obtain ((mem | mem) | mem) | mem := mem
  · obtain ⟨_, _, _, rfl⟩ := lawful.before.exists_of_mem mem
    rfl
  · obtain ⟨_, rfl⟩ := lawful.of_mem_handling mem
    rfl
  · obtain ⟨_, _, _, _, rfl⟩ := lawful.of_mem_after mem
    rfl
  · obtain ⟨_, _, _, rfl⟩ := exists_of_mem_forall₂ completed mem
    rfl

end Lifecycle

namespace Dispatcher

variable {d : Dispatcher σ} {request : Request} {x : Exchange σ} {agenda : Agenda σ}
variable {s t : Exchange σ × Option (ModelAndView σ)}
variable {hook : Activity (Exchange σ × Option (ModelAndView σ)) (Except Failure Unit)}

/-- Nothing is rendered when an interceptor fails after the handler. -/
theorem filter_log_of_after (answers : d.Answers request x agenda s)
    (turn : HasTurn (.ok ()) agenda.after s hook t) (stop : (hook t).result ≠ .ok ()) :
    (d.log request x).filter Call.isRender = [] := by
  have ended := dispatch_of_after answers turn stop
  obtain ⟨_, ⟨planned, _⟩, _⟩ := answers
  obtain ⟨entries, selected, _⟩ := agenda_eq_ok_iff.mp planned
  have lifecycle := log_of_select selected x
  cases failed : (hook t).result with
  | ok => exact absurd failed stop
  | error failure =>
      rw [ended, failed] at lifecycle
      exact lifecycle.filter_isRender

/-- The hook is that of a web interceptor. -/
def IsWebHook (d : Dispatcher σ) (request : Request)
    (hook : Activity (Exchange σ × Option (ModelAndView σ)) (Except Failure Unit)) : Prop :=
  ∃ web : WebInterceptor σ, hook = web.toInterceptor.postHandle request d.handlerRef

/-- In the course of the request an interceptor leaves the answer of the handler cleared, and all
that are to be called after it are web interceptors. -/
def ClearsForWeb (d : Dispatcher σ) (request : Request) (x : Exchange σ) : Prop :=
  ∃ agenda s earlier hook later t m, d.Answers request x agenda s ∧
    agenda.after = earlier ++ hook :: later ∧ Through (.ok ()) earlier s t ∧
    (hook t).state.2 = some m ∧ m.wasCleared = true ∧ ∀ other ∈ later, d.IsWebHook request other

theorem through_webHooks {m : ModelAndView σ}
    {hooks : List (Activity (Exchange σ × Option (ModelAndView σ)) (Except Failure Unit))}
    (webs : ∀ hook ∈ hooks, d.IsWebHook request hook) (cleared : m.wasCleared = true)
    (own : s.2 = some m) (all : Through (.ok ()) hooks s t) : t.2 = some m := by
  induction all with
  | done => exact own
  | @next hook hooks s t _ _ ih =>
      obtain ⟨x, mav⟩ := s
      obtain rfl : mav = some m := own
      obtain ⟨⟨web, rfl⟩, others⟩ := List.forall_mem_cons.mp webs
      refine ih others ?_
      rw [WebInterceptor.postHandle_of_wasCleared cleared, Run.state_mapState]

/-- Nothing is rendered when the answer is cleared and left to web interceptors, whether these
succeed or fail. -/
theorem ClearsForWeb.filter_log (h : d.ClearsForWeb request x) :
    (d.log request x).filter Call.isRender = [] := by
  obtain ⟨agenda, s, earlier, hook, later, t, m, answers, split, before, own, cleared, webs⟩ := h
  -- Either all hooks succeed and the view stage finds no view, or it is not reached.
  obtain ⟨⟨on, mav⟩, all⟩ | ⟨failing, u, turn, stop⟩ := through_or_hasTurn (.ok ()) agenda.after s
  · have leaves : d.Leaves request x (on, mav) := ⟨agenda, s, answers, all⟩
    rw [split] at all
    obtain ⟨t', before', all⟩ := through_append_iff.mp all
    obtain rfl := before.unique before'
    obtain ⟨_, rest⟩ := through_cons_iff.mp all
    obtain rfl : mav = some m := through_webHooks webs cleared own rest
    refine (ends_of_no_view leaves ?_).filter_log
    rintro _ ⟨⟩
    exact ModelAndView.view_eq_none_of_wasCleared cleared
  · exact filter_log_of_after answers turn stop

end Dispatcher

namespace WebInterceptor

/-- A web interceptor can touch nothing but the model. However many are called on one answer, after
the handler and one after the other, its view, its status and its mark of having been cleared stay;
if it counts as cleared, each of them is called without a model, and it stays as it is. So a request
whose answer is cleared and left to web interceptors renders nothing. Before the handler a web
interceptor lets the request go on exactly if it succeeds, and fails with its own failure. -/
theorem toInterceptor_confined :
    (∀ (calls : List (WebCall σ)) (m : ModelAndView σ), ∃ left,
        WebCall.leave calls (some m) = some left ∧ m.SameButModel left ∧
        (m.wasCleared = true → left = m ∧ ∀ before call after, calls = before ++ call :: after →
          call.run (WebCall.leave before (some m)) =
            call.runWithout.mapState fun s => (s.1, some m))) ∧
      (∀ (d : Dispatcher σ) request x, d.ClearsForWeb request x →
        (d.log request x).filter Call.isRender = []) ∧
      ∀ (web : WebInterceptor σ) request handler x,
        let run := web.toInterceptor.preHandle request handler x
        let own := web.preHandle request x
        run.pauses = own.pauses ∧ run.state = own.state ∧
          (run.result = .ok true ↔ own.result = .ok ()) ∧ run.result ≠ .ok false ∧
          ∀ failure, run.result = .error failure ↔ own.result = .error failure := by
  refine ⟨?_, fun d request x h => h.filter_log, ?_⟩
  · intro calls m
    obtain ⟨left, leaves, same⟩ := WebCall.exists_leave calls m
    refine ⟨left, leaves, same, fun cleared => ⟨?_, ?_⟩⟩
    · rw [WebCall.leave_of_wasCleared cleared] at leaves
      exact (Option.some.inj leaves).symm
    · intro before call after _
      rw [WebCall.leave_of_wasCleared cleared]
      exact WebCall.run_of_wasCleared cleared
  · intro web request handler x run own
    have eq : run = own.map (Except.map fun () => true) := preHandle_eq_map
    rw [eq, Run.pauses_map, Run.state_map, Run.result_map]
    cases own.result with
    | ok => simp [Except.map]
    | error e => simp [Except.map]

/-- Fills whatever model it is handed, and also where it is handed none. -/
def filling : WebInterceptor Unit :=
  { passThrough with
    postHandle := fun _ =>
      .change (fun s => (s.1, some (Dict.ofList [("late", .bool true)]))) >>= fun _ =>
        pure (.ok ()) }

/-- A dispatcher with an interceptor that clears what the handler has answered, and a web
interceptor that is called after it. -/
def clearing : Dispatcher Unit where
  registry := ⟨[.everywhere filling.toInterceptor, .everywhere (Dispatcher.acting [.clear])],
    AntMatcher.default.toPathMatcher⟩
  handler _ := pure (.ok (some (.setView .empty (.resolved (Testing.plainView "shown")))))
  handlerRef := ⟨none⟩
  resolver := none
  lookup := .default

theorem toInterceptor_confined_clearing :
    let request : Request := ⟨"GET", "/", ∅⟩
    clearing.ClearsForWeb request (.start ()) ∧
      (clearing.log request (.start ())).filter Call.isRender = [] := by
  intro request
  have clears : clearing.ClearsForWeb request (.start ()) := by
    let on := clearing.opened request 2 (.start ())
    let answer : ModelAndView Unit := .setView .empty (.resolved (Testing.plainView "shown"))
    refine ⟨_, (on, some answer), [], _, _, (on, some answer), answer.clear,
      ⟨on, ⟨rfl, .next rfl (.next rfl (.done on))⟩, rfl, rfl⟩, rfl, .done _, rfl, rfl, ?_⟩
    intro other mem
    exact ⟨filling, List.mem_singleton.mp mem⟩
  exact ⟨clears, toInterceptor_confined.2.1 clearing request (.start ()) clears⟩

end WebInterceptor

end Interception
