import Interception.Proofs.ContentType
import Interception.Proofs.JsonDocument
import Interception.Proofs.ViewStage

/-!
# Renderings that fail

A JSON view fails where the request asks for a status that is none, and where the content type is no
legal header value. The status is looked at first. Nothing is changed by a rendering that fails.

A dispatcher sets the status of a model-and-view before it renders the view. So when the view fails,
the response is as the interceptors left it but for this status.
-/

namespace Interception

/-! ## Refusals -/

namespace JsonView

variable {σ : Type} {v : JsonView} {request : Request} {model : Option Model}
variable {response : Response} {value : Json} {e : RenderError}

/-- The request asks for a status by a value that is none. -/
def Misstates (request : Request) (value : Json) : Prop :=
  request.attribute? responseStatusAttribute = some value ∧
    ∀ code : Int, value = .int code → ¬(100 ≤ code ∧ code ≤ 999)

theorem bind_ofNat?_eq_none_iff :
    value.nat?.bind Status.ofNat? = none ↔
      ∀ code : Int, value = .int code → ¬(100 ≤ code ∧ code ≤ 999) := by
  constructor
  · rintro missing code rfl ⟨low, high⟩
    obtain ⟨n, rfl⟩ := Int.eq_ofNat_of_zero_le (a := code) (by omega)
    exact Status.ofNat?_eq_none_iff.mp missing (by omega)
  · intro invalid
    cases isCode : value.nat? with
    | none => rfl
    | some code =>
        refine Status.ofNat?_eq_none_iff.mpr fun valid => ?_
        exact invalid code (eq_int_of_nat? isCode) (by omega)

theorem requestedStatus_of_misstates (misstated : Misstates request value) :
    requestedStatus request =
      .error (.ofMessage ("invalid response status " ++ value.compact)) := by
  obtain ⟨own, invalid⟩ := misstated
  simp only [requestedStatus, own, bind_ofNat?_eq_none_iff.mpr invalid]

theorem exists_misstates_of_requestedStatus (h : requestedStatus request = .error e) :
    ∃ value, Misstates request value := by
  rw [requestedStatus] at h
  split at h
  · cases h
  · rename_i value own
    split at h
    · cases h
    · rename_i missing
      exact ⟨value, own, bind_ofNat?_eq_none_iff.mp missing⟩

theorem renderTo_of_misstated (misstated : Misstates request value) :
    v.renderTo model request response =
      (.error (.ofMessage ("invalid response status " ++ value.compact)), response) := by
  simp only [renderTo, requestedStatus_of_misstates misstated]

/-- Where the status is well stated, the content type decides, before anything is changed. -/
theorem renderTo_of_stated (v : JsonView) (model : Option Model) (response : Response)
    (stated : ∀ value, ¬ Misstates request value) :
    (Header.IsLegal (v.chosenContentType request) ∧
        (v.renderTo model request response).1 = .ok ()) ∨
      ¬ Header.IsLegal (v.chosenContentType request) ∧
        v.renderTo model request response =
          (.error ⟨"cannot set content type", some Response.illegalHeader⟩, response) := by
  cases asked : requestedStatus request with
  | error e =>
      obtain ⟨value, misstated⟩ := exists_misstates_of_requestedStatus asked
      exact absurd misstated (stated value)
  | ok status =>
      rw [← Header.isValue_iff]
      by_cases legal : Header.isValue (v.chosenContentType request) = true
      · exact .inl ⟨legal, congrArg Prod.fst (renderTo_of_legal asked legal)⟩
      · exact .inr ⟨legal, renderTo_of_illegal asked legal⟩

/-- A response that could not be written to is as it was. -/
theorem renderTo_of_error (failed : (v.renderTo model request response).1 = .error e) :
    (v.renderTo model request response).2 = response := by
  by_cases misstated : ∃ value, Misstates request value
  · obtain ⟨value, misstated⟩ := misstated
    rw [renderTo_of_misstated misstated]
  · obtain ⟨_, written⟩ | ⟨_, refused⟩ :=
      renderTo_of_stated v model response (not_exists.mp misstated)
    · rw [written] at failed
      cases failed
    · rw [refused]

theorem render_toView_of_error {x : Exchange σ}
    (failed : (v.toView.render model request x).1 = .error e) :
    (v.toView.render model request x).2 = x :=
  congrArg (fun response : Response => { x with response }) (renderTo_of_error failed)

/-- A rendering fails exactly if the request misstates the status or the content type is no legal
header value. Of both the status is what it fails with. Whatever it fails with, the response, and
everything else that is acted upon, is as it was. -/
theorem render_toView_refused (v : JsonView) (request : Request) (model : Option Model)
    (x : Exchange σ) :
    let outcome := v.toView.render model request x
    let contentType := match request.attribute? selectedContentTypeAttribute with
      | some (.str selected) => selected
      | _ => v.contentType
    ((∃ e, outcome.1 = .error e) ↔
        (∃ value, Misstates request value) ∨ ¬ Header.IsLegal contentType) ∧
      (∀ value, Misstates request value →
        outcome.1 = .error (.ofMessage ("invalid response status " ++ value.compact))) ∧
      ((∀ value, ¬ Misstates request value) → ¬ Header.IsLegal contentType →
        outcome.1 = .error ⟨"cannot set content type", some Response.illegalHeader⟩) ∧
      ∀ e, outcome.1 = .error e → outcome.2 = x := by
  intro outcome contentType
  have result : outcome.1 = (v.renderTo model request x.response).1 := rfl
  have chosen : v.chosenContentType request = contentType := v.chosenContentType_eq request
  refine ⟨?_, ?_, ?_, fun e failed => render_toView_of_error failed⟩
  · by_cases misstated : ∃ value, Misstates request value
    · obtain ⟨value, own⟩ := misstated
      rw [result, renderTo_of_misstated own]
      exact iff_of_true ⟨_, rfl⟩ (.inl ⟨value, own⟩)
    · rw [or_iff_right misstated, result, ← chosen]
      obtain ⟨legal, written⟩ | ⟨illegal, refused⟩ :=
        renderTo_of_stated v model x.response (not_exists.mp misstated)
      · simp [written, legal]
      · simp [refused, illegal]
  · intro value misstated
    rw [result, renderTo_of_misstated misstated]
  · intro stated illegal
    rw [← chosen] at illegal
    obtain ⟨legal, _⟩ | ⟨_, refused⟩ := renderTo_of_stated v model x.response stated
    · exact absurd legal illegal
    · rw [result, refused]

/-- A request that misstates both its status and its content type. -/
def misstating : Request where
  method := "GET"
  path := "/"
  attributes := Dict.ofList [(responseStatusAttribute, .str "teapot"),
    (selectedContentTypeAttribute, .str "text/plain\n")]

theorem misstates_misstating : Misstates misstating (.str "teapot") := by
  refine ⟨rfl, ?_⟩
  rintro _ ⟨⟩

theorem render_toView_refused_misstating :
    let x : Exchange Unit := ⟨⟨⟨404, by decide⟩, some "text/html", "Not".toUTF8⟩, (), []⟩
    ¬ Header.IsLegal "text/plain\n" ∧
      default.toView.render none misstating x =
        (.error (.ofMessage ("invalid response status " ++ (Json.str "teapot").compact)), x) := by
  intro x
  have illegal : ¬ Header.IsLegal "text/plain\n" := Header.isValue_iff.not.mp (by decide)
  obtain ⟨_, refused, _, kept⟩ := render_toView_refused default misstating none x
  have failed := refused _ misstates_misstating
  exact ⟨illegal, Prod.ext failed (kept _ failed)⟩

end JsonView

/-! ## Failures of the view stage -/

namespace Dispatcher

variable {σ : Type} {d : Dispatcher σ} {request : Request} {x on : Exchange σ}
variable {m : ModelAndView σ} {ref : ViewRef σ} {v : JsonView} {e : RenderError}

/-- A request that fails in a JSON view has been answered with the status of the model-and-view, if
that has one, and is otherwise as the interceptors left it. -/
theorem dispatch_failed_rendering (leaves : d.Leaves request x (on, some m))
    (chosen : m.view = some ref) (found : d.resolve ref = .ok v.toView)
    (failed : (d.dispatch request x).result = .error (.render e)) :
    ∃ left, d.renderAnswer (some m) request on = .done (.error (.render e)) left ∧
      d.Ends request x (.error (.render e))
        [.render (some m.model) request (readyFor m on) (.error e)] left ∧
      left.response.status = m.status.getD on.response.status ∧
      left.response.contentTypeHeader = on.response.contentTypeHeader ∧
      left.response.bytes = on.response.bytes ∧
      left.world = on.world ∧ left.journal = on.journal := by
  have ends := ends_of_resolve leaves chosen found
  have stage := render_of_resolve chosen found request on
  have refused : (v.toView.render (some m.model) request (readyFor m on)).1 = .error e := by
    have mapped := ends.result_eq.symm.trans failed
    cases outcome : (v.toView.render (some m.model) request (readyFor m on)).1 with
    | ok => simp [outcome, Except.mapError] at mapped
    | error e' => simpa [outcome, Except.mapError] using mapped
  have kept := JsonView.render_toView_of_error refused
  simp only [refused, kept, Except.mapError] at ends stage
  refine ⟨readyFor m on, ?_, ends, ?_⟩
  · rw [renderAnswer_of_view chosen, stage]
  · rw [readyFor_eq]
    exact ⟨rfl, rfl, rfl, rfl, rfl⟩

/-- A dispatcher without interceptors whose handler answers with a JSON view and a status. -/
def answering (status : Option Status) : Dispatcher Unit where
  registry := ⟨[], AntMatcher.default.toPathMatcher⟩
  handler _ := pure (.ok (some ⟨some (.resolved JsonView.default.toView), ∅, status, false⟩))
  handlerRef := ⟨none⟩
  resolver := none
  lookup := .default

theorem leaves_answering (status : Option Status) :
    let d := answering status
    d.Leaves JsonView.misstating (.start ()) (d.opened JsonView.misstating 0 (.start ()),
      some ⟨some (.resolved JsonView.default.toView), ∅, status, false⟩) :=
  ⟨_, _, ⟨_, ⟨rfl, .done _⟩, rfl, rfl⟩, .done _⟩

theorem dispatch_failed_rendering_misstating :
    let d := answering none
    let on := d.opened JsonView.misstating 0 (.start ())
    let m : ModelAndView Unit := ⟨some (.resolved JsonView.default.toView), ∅, none, false⟩
    let e := RenderError.ofMessage ("invalid response status " ++ (Json.str "teapot").compact)
    ∃ left, d.renderAnswer (some m) JsonView.misstating on = .done (.error (.render e)) left ∧
      d.Ends JsonView.misstating (.start ()) (.error (.render e))
        [.render (some ∅) JsonView.misstating on (.error e)] left ∧
      left.response.status = on.response.status ∧
      left.response.contentTypeHeader = on.response.contentTypeHeader ∧
      left.response.bytes = on.response.bytes := by
  intro d on m e
  have leaves := leaves_answering none
  obtain ⟨left, stage, ends, status, contentType, body, _⟩ :=
    dispatch_failed_rendering leaves rfl (v := .default) (e := e) rfl rfl
  exact ⟨left, stage, ends, status, contentType, body⟩

/-- The status of a model-and-view is set although its view fails. -/
theorem failed_rendering_sets_status :
    let d := answering (some ⟨201, by decide⟩)
    let on := d.opened JsonView.misstating 0 (.start ())
    let m : ModelAndView Unit :=
      ⟨some (.resolved JsonView.default.toView), ∅, some ⟨201, by decide⟩, false⟩
    let e := RenderError.ofMessage ("invalid response status " ++ (Json.str "teapot").compact)
    d.Leaves JsonView.misstating (.start ()) (on, some m) ∧
      (d.dispatch JsonView.misstating (.start ())).result = .error (.render e) ∧
      ∃ left, d.renderAnswer (some m) JsonView.misstating on = .done (.error (.render e)) left ∧
        on.response.status.code = 200 ∧ left.response.status.code = 201 := by
  intro d on m e
  exact ⟨leaves_answering _, rfl, _, rfl, rfl, rfl⟩

end Dispatcher

end Interception
