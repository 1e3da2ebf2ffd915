import Interception.Proofs.Dict
import Interception.View.Json

/-!
# What JSON views write

A JSON view is given values by three sources: the model, the path variables of the request, and
attributes of its own. `Shows` tells which value a key has then, if it has one, and `IsDocument`
which value is written for all keys together. Neither knows of an order in which sources are merged
or list their pairs, nor in which the keys are listed that a view is restricted to, though the view
takes these keys out of the merged sources one after the other.

There is exactly one document, so that what is written depends on the three sources as maps and on
nothing else.
-/

namespace Interception

/-! ## Sources -/

/-- The value of a field of an object. -/
def Json.field? (value : Json) (key : String) : Option Json :=
  match value with
  | .obj fields => (Dict.ofList fields).get? key
  | _ => none

namespace JsonView

variable {v v' : JsonView} {request request' : Request} {model model' : Option Model}
variable {key : String} {value : Json}

/-- The value of a path variable, if there are any. -/
def pathVariable? (request : Request) (key : String) : Option Json :=
  (request.attribute? pathVariablesAttribute).bind (·.field? key)

/-- The value of a key: that of the model, or else that of the path variable, or else that of the
view's own attribute. -/
def value? (v : JsonView) (request : Request) (model : Option Model) (key : String) : Option Json :=
  ((model.bind (·.get? key)).or (pathVariable? request key)).or (v.attributes.get? key)

/-- The view is restricted to no keys, or to this one among others. -/
def Admits (v : JsonView) (key : String) : Prop := ∀ keys, v.modelKeys = some keys → key ∈ keys

/-- The view writes the value of a key. -/
def Shows (v : JsonView) (request : Request) (model : Option Model) (key : String)
    (value : Json) : Prop :=
  v.Admits key ∧ v.value? request model key = some value

theorem get?_pathVariables :
    (Dict.ofList (pathVariables request)).get? key = pathVariable? request key := by
  rw [pathVariables, pathVariable?]
  rcases request.attribute? pathVariablesAttribute with _ | (_ | _ | _ | _ | _ | _ | fields)
  all_goals rfl

theorem get?_mergeOutputModel :
    (mergeOutputModel v.attributes request model).get? key = v.value? request model key := by
  have ofPath : (v.attributes.insertAll (pathVariables request)).get? key =
      (pathVariable? request key).or (v.attributes.get? key) := by
    rw [Dict.get?_insertAll, ← Dict.get?_ofList, get?_pathVariables]
  rw [value?, Option.or_assoc]
  cases model with
  | none => exact ofPath
  | some m =>
      rw [mergeOutputModel, Dict.get?_merge, ofPath]
      rfl

/-- The sources may be merged with the pairs of each in any order. -/
theorem insertAll_insertAll_same {path pairs : List (String × Json)}
    (ofPath : path.Perm (Dict.ofList (pathVariables request)).pairs)
    (ofModel : pairs.Perm (model.getD ∅).pairs) :
    ((v.attributes.insertAll path).insertAll pairs).Same
      (mergeOutputModel v.attributes request model) := by
  intro key
  have own : (model.getD ∅).get? key = model.bind (·.get? key) := by
    cases model with
    | none => rfl
    | some m => rfl
  rw [Dict.get?_insertAll_of_perm ofModel, Dict.get?_insertAll_of_perm ofPath, get?_pathVariables,
    get?_mergeOutputModel, own, value?, Option.or_assoc]

/-! ## Keys that are kept -/

/-- What is taken out for some keys is what the model has for them. A key that is listed once more
is not in the model any more, so that the invariant of the induction is about any model. -/
theorem mem_takeKeys_iff {m : Model} {keys : List String} :
    (key, value) ∈ takeKeys m keys ↔ key ∈ keys ∧ m.get? key = some value := by
  induction keys generalizing m with
  | nil => simp [takeKeys]
  | cons first keys ih =>
      rw [takeKeys, Dict.remove]
      cases taken : m.get? first with
      | none =>
          rw [ih, Dict.get?_erase_eq_some_iff, List.mem_cons]
          constructor
          · rintro ⟨mem, _, has⟩
            exact ⟨.inr mem, has⟩
          · rintro ⟨rfl | mem, has⟩
            · rw [taken] at has
              cases has
            · refine ⟨mem, ?_, has⟩
              rintro rfl
              rw [taken] at has
              cases has
      | some own =>
          rw [List.mem_cons, ih, Dict.get?_erase_eq_some_iff, List.mem_cons, Prod.mk.injEq]
          constructor
          · rintro (⟨rfl, rfl⟩ | ⟨mem, _, has⟩)
            · exact ⟨.inl rfl, taken⟩
            · exact ⟨.inr mem, has⟩
          · rintro ⟨listed, has⟩
            by_cases here : key = first
            · rw [here, taken] at has
              exact .inl ⟨here, (Option.some.inj has).symm⟩
            · exact .inr ⟨listed.resolve_left here, here, has⟩

/-- No key is taken out twice. -/
theorem nodup_takeKeys (m : Model) (keys : List String) :
    ((takeKeys m keys).map Prod.fst).Nodup := by
  induction keys generalizing m with
  | nil => exact List.nodup_nil
  | cons first keys ih =>
      rw [takeKeys, Dict.remove]
      cases m.get? first with
      | none => exact ih _
      | some own =>
          refine List.nodup_cons.mpr ⟨fun again => ?_, ih _⟩
          obtain ⟨⟨_, value⟩, mem, rfl⟩ := List.mem_map.mp again
          exact (Dict.get?_erase_eq_some_iff.mp (mem_takeKeys_iff.mp mem).2).1 rfl

theorem get?_filterModel {m : Model} :
    (v.filterModel m).get? key = some value ↔ v.Admits key ∧ m.get? key = some value := by
  rw [filterModel, Admits]
  cases v.modelKeys with
  | none => simp
  | some keys =>
      rw [Dict.get?_ofList_of_nodup (nodup_takeKeys m keys), mem_takeKeys_iff]
      simp

/-! ## Documents -/

/-- The value that is written for what is shown: the value of the only key, where the view takes a
single value out, and otherwise an object with all keys. -/
inductive IsDocument (v : JsonView) (shows : String → Json → Prop) : Json → Prop where
  | single {key : String} {value : Json} (extracts : v.extractSingle = true)
      (only : ∀ k w, shows k w ↔ k = key ∧ w = value) : IsDocument v shows value
  | object {fields : List (String × Json)} (ordered : Ordered fields)
      (mem : ∀ k w, (k, w) ∈ fields ↔ shows k w)
      (several : v.extractSingle = true → fields.length ≠ 1) : IsDocument v shows (.obj fields)

variable {shows shows' : String → Json → Prop} {document document' : Json}

theorem isDocument_document {m : Model} (has : ∀ k w, m.get? k = some w ↔ shows k w) :
    v.IsDocument shows (v.document m) := by
  rw [JsonView.document]
  split
  · rename_i single
    obtain ⟨extracts, one⟩ := Bool.and_eq_true_iff.mp single
    obtain ⟨⟨key, value⟩, only⟩ := List.length_eq_one_iff.mp (beq_iff_eq.mp one)
    rw [only]
    have shown (k : String) (w : Json) : shows k w ↔ k = key ∧ w = value := by
      rw [← has, ← Dict.mem_pairs_iff, only, List.mem_singleton, Prod.mk.injEq]
    exact .single extracts shown
  · rename_i several
    refine .object m.entries_ordered (fun k w => ?_) fun extracts one => several ?_
    · rw [Dict.mem_entries_iff, has]
    · rw [extracts, ← m.length_entries, one]
      rfl

/-- Where one key is shown, an object of all keys has one field. -/
theorem length_eq_one_of_mem_iff {fields : List (String × Json)} (ordered : Ordered fields)
    (mem : ∀ k w, (k, w) ∈ fields ↔ k = key ∧ w = value) : fields.length = 1 := by
  have only : fields = [(key, value)] := by
    refine ordered.eq_of_mem_iff (List.pairwise_singleton _ _) fun ⟨k, w⟩ => ?_
    rw [mem, List.mem_singleton, Prod.mk.injEq]
  rw [only, List.length_singleton]

/-- There is one document for what is shown. -/
theorem IsDocument.unique (h : v.IsDocument shows document) (h' : v'.IsDocument shows' document')
    (same : ∀ k w, shows k w ↔ shows' k w) (extracts : v.extractSingle = v'.extractSingle) :
    document = document' := by
  cases h with
  | single own only =>
      cases h' with
      | single _ only' =>
          exact ((only' _ _).mp ((same _ _).mp ((only _ _).mpr ⟨rfl, rfl⟩))).2
      | object ordered mem several =>
          have one := length_eq_one_of_mem_iff ordered fun k w =>
            (mem k w).trans ((same k w).symm.trans (only k w))
          exact absurd one (several (extracts.symm.trans own))
  | object ordered mem several =>
      cases h' with
      | single own only =>
          have one := length_eq_one_of_mem_iff ordered fun k w =>
            (mem k w).trans ((same k w).trans (only k w))
          exact absurd one (several (extracts.trans own))
      | object ordered' mem' _ =>
          have equal := ordered.eq_of_mem_iff ordered' fun ⟨k, w⟩ =>
            (mem k w).trans ((same k w).trans (mem' k w).symm)
          rw [equal]

/-! ## Rendering -/

/-- The text of a document. -/
def layout (v : JsonView) (document : Json) : String :=
  if v.prettyPrinted then document.pretty else document.compact

/-- In whatever order the merged sources and what is kept of them list their pairs, the document is
one. -/
theorem isDocument_of_same {merged kept : Model}
    (one : merged.Same (mergeOutputModel v.attributes request model))
    (left : kept.Same (v.filterModel merged)) :
    v.IsDocument (v.Shows request model) (v.document kept) := by
  refine isDocument_document fun key value => ?_
  rw [left key, get?_filterModel, one key, get?_mergeOutputModel, Shows]

theorem isDocument_merged (v : JsonView) (request : Request) (model : Option Model) :
    v.IsDocument (v.Shows request model)
      (v.document (v.filterModel (mergeOutputModel v.attributes request model))) :=
  isDocument_of_same (fun _ => rfl) fun _ => rfl

theorem bodyText_of_isDocument (h : v.IsDocument (v.Shows request model) document) :
    v.bodyText request model = v.layout document := by
  rw [h.unique (v.isDocument_merged request model) (fun _ _ => Iff.rfl) rfl]
  rfl

theorem exists_isDocument (v : JsonView) (request : Request) (model : Option Model) :
    ∃ document, ∀ other, v.IsDocument (v.Shows request model) other ↔ other = document := by
  have own := v.isDocument_merged request model
  refine ⟨_, fun other => ⟨fun h => h.unique own (fun _ _ => Iff.rfl) rfl, ?_⟩⟩
  rintro rfl
  exact own

theorem eq_int_of_nat? {code : Nat} (h : value.nat? = some code) : value = .int code := by
  unfold Json.nat? at h
  split at h
  · rw [← Option.some.inj h]
    rfl
  · cases h

theorem code_of_ofNat? {code : Nat} {status : Status} (h : Status.ofNat? code = some status) :
    status.code = code := by
  rw [Status.ofNat?] at h
  split at h
  · rw [← Option.some.inj h]
  · cases h

/-- The status that a request asks for is written in its attribute. -/
theorem attribute?_of_requestedStatus {status : Option Status}
    (h : requestedStatus request = .ok status) :
    request.attribute? responseStatusAttribute = status.map fun s => .int s.code := by
  rw [requestedStatus] at h
  split at h
  · rename_i missing
    obtain rfl := Except.ok.inj h
    exact missing
  · rename_i value own
    split at h
    · rename_i s valid
      obtain rfl := Except.ok.inj h
      obtain ⟨code, isCode, isStatus⟩ := Option.bind_eq_some_iff.mp valid
      rw [own, eq_int_of_nat? isCode, Option.map_some, code_of_ofNat? isStatus]
    · cases h

theorem chosenContentType_eq (v : JsonView) (request : Request) :
    v.chosenContentType request =
      match request.attribute? selectedContentTypeAttribute with
      | some (.str selected) => selected
      | _ => v.contentType := by
  rw [chosenContentType]
  rcases request.attribute? selectedContentTypeAttribute with _ | (_ | _ | _ | _ | _ | _ | _)
  all_goals rfl

theorem renderTo_of_legal {response : Response} {status : Option Status}
    (asked : requestedStatus request = .ok status)
    (legal : Header.isValue (v.chosenContentType request) = true) :
    v.renderTo model request response =
      (.ok (), ⟨status.getD response.status, some (v.chosenContentType request),
        response.bytes ++ (v.bodyText request model).toUTF8⟩) := by
  simp only [renderTo, asked, Response.setContentType, if_pos legal]
  cases status <;> rfl

theorem renderTo_of_illegal {response : Response} {status : Option Status}
    (asked : requestedStatus request = .ok status)
    (illegal : ¬ Header.isValue (v.chosenContentType request) = true) :
    v.renderTo model request response =
      (.error ⟨"cannot set content type", some Response.illegalHeader⟩, response) := by
  simp only [renderTo, asked, Response.setContentType, if_neg illegal]

/-- A response that was written to with success: all has been decided before the first change. -/
theorem renderTo_of_ok {response : Response}
    (rendered : (v.renderTo model request response).1 = .ok ()) :
    ∃ status : Option Status, request.attribute? responseStatusAttribute =
        status.map (fun s => .int s.code) ∧
      (v.renderTo model request response).2 =
        ⟨status.getD response.status, some (v.chosenContentType request),
          response.bytes ++ (v.bodyText request model).toUTF8⟩ := by
  cases asked : requestedStatus request with
  | error e =>
      simp only [renderTo, asked] at rendered
      cases rendered
  | ok status =>
      refine ⟨status, attribute?_of_requestedStatus asked, ?_⟩
      by_cases legal : Header.isValue (v.chosenContentType request) = true
      · rw [renderTo_of_legal asked legal]
      · rw [renderTo_of_illegal asked legal] at rendered
        cases rendered

/-- The sources of two renderings agree as maps, and so do the keys that the views are restricted
to. -/
structure Alike (v v' : JsonView) (request request' : Request) (model model' : Option Model) :
    Prop where
  model_eq : ∀ key, model.bind (·.get? key) = model'.bind (·.get? key)
  path_eq : ∀ key, pathVariable? request key = pathVariable? request' key
  attributes_eq : ∀ key, v.attributes.get? key = v'.attributes.get? key
  admits_iff : ∀ key, v.Admits key ↔ v'.Admits key
  extractSingle_eq : v.extractSingle = v'.extractSingle
  prettyPrinted_eq : v.prettyPrinted = v'.prettyPrinted

theorem Alike.bodyText_eq (h : Alike v v' request request' model model') :
    v.bodyText request model = v'.bodyText request' model' := by
  have same (key : String) (value : Json) :
      v.Shows request model key value ↔ v'.Shows request' model' key value := by
    rw [Shows, Shows, value?, value?, h.model_eq, h.path_eq, h.attributes_eq, h.admits_iff]
  obtain ⟨document, only⟩ := v.exists_isDocument request model
  obtain ⟨document', only'⟩ := v'.exists_isDocument request' model'
  have own := (only document).mpr rfl
  have own' := (only' document').mpr rfl
  rw [bodyText_of_isDocument own, bodyText_of_isDocument own', layout, layout, h.prettyPrinted_eq,
    own.unique own' same h.extractSingle_eq]

/-- What is left of a response that a JSON view was rendered to with success. The text of the only
document for what is shown is appended to the body; content type and status are those that the
attributes of the request ask for. The text is the same in whatever order the pairs of path
variables and model are merged, and in whatever order what is merged of them and what is kept of
that list their pairs; and sources that are the same maps make the same text. -/
theorem render_toView {σ : Type} {x : Exchange σ}
    (rendered : (v.toView.render model request x).1 = .ok ()) :
    let y := (v.toView.render model request x).2
    (∃ document, (∀ other, v.IsDocument (v.Shows request model) other ↔ other = document) ∧
        y.response.bytes = x.response.bytes ++ (v.layout document).toUTF8) ∧
      y.response.contentTypeHeader = some
        (match request.attribute? selectedContentTypeAttribute with
        | some (.str selected) => selected
        | _ => v.contentType) ∧
      (match request.attribute? responseStatusAttribute with
        | some value => value = .int y.response.status.code
        | none => y.response.status = x.response.status) ∧
      y.world = x.world ∧ y.journal = x.journal ∧
      (∀ path pairs, path.Perm (Dict.ofList (pathVariables request)).pairs →
        pairs.Perm (model.getD ∅).pairs →
        ∀ merged kept : Model, merged.Same ((v.attributes.insertAll path).insertAll pairs) →
          kept.Same (v.filterModel merged) →
          y.response.bytes = x.response.bytes ++ (v.layout (v.document kept)).toUTF8) ∧
      ∀ v' request' model' (x' : Exchange σ), Alike v v' request request' model model' →
        (v'.toView.render model' request' x').1 = .ok () → ∃ text : String,
          y.response.bytes = x.response.bytes ++ text.toUTF8 ∧
            (v'.toView.render model' request' x').2.response.bytes =
              x'.response.bytes ++ text.toUTF8 := by
  intro y
  obtain ⟨status, asked, written⟩ := renderTo_of_ok rendered
  have response : y.response = ⟨status.getD x.response.status, some (v.chosenContentType request),
      x.response.bytes ++ (v.bodyText request model).toUTF8⟩ := written
  obtain ⟨document, only⟩ := v.exists_isDocument request model
  refine ⟨⟨document, only, ?_⟩, ?_, ?_, rfl, rfl, ?_, ?_⟩
  · rw [response, bodyText_of_isDocument ((only document).mpr rfl)]
  · rw [response]
    exact congrArg some (v.chosenContentType_eq request)
  · rw [asked, response]
    cases status <;> rfl
  · intro path pairs ofPath ofModel merged kept one left
    have same : merged.Same (mergeOutputModel v.attributes request model) := fun key =>
      (one key).trans (insertAll_insertAll_same ofPath ofModel key)
    rw [response, bodyText_of_isDocument (isDocument_of_same same left)]
  · intro v' request' model' x' alike rendered'
    obtain ⟨_, _, written'⟩ := renderTo_of_ok rendered'
    refine ⟨v.bodyText request model, ?_, ?_⟩
    · rw [response]
    · rw [alike.bodyText_eq]
      exact congrArg Response.bytes written'

/-- A view that takes a single value out, restricted to a key that is listed twice and to one that
no source has. -/
def singling : JsonView where
  contentType := defaultContentType
  attributes := Dict.ofList [("site", .str "shop"), ("id", .str "static")]
  modelKeys := some ["id", "absent", "id"]
  extractSingle := true
  prettyPrinted := false

/-- A request with a path variable, a status and a content type. -/
def tagged : Request where
  method := "GET"
  path := "/items/7"
  attributes := Dict.ofList [(pathVariablesAttribute, .obj [("id", .int 7), ("kind", .str "item")]),
    (responseStatusAttribute, .int 203), (selectedContentTypeAttribute, .str "application/hal+json")]

/-- A model, and the same model with its pairs the other way round. -/
def product : Model := Dict.ofList [("kind", .str "product"), ("stock", .int 3)]

def turned : Model := Dict.ofList [("stock", .int 3), ("kind", .str "product")]

theorem product_same_turned : product.Same turned :=
  Dict.same_iff_perm.mpr (.swap _ _ _)

theorem render_toView_singling :
    let x : Exchange Unit := ⟨⟨Status.ok, none, "data: ".toUTF8⟩, (), []⟩
    let y := (singling.toView.render (some product) tagged x).2
    let z := (singling.toView.render (some turned) tagged x).2
    (singling.toView.render (some product) tagged x).1 = .ok () ∧
      y.response.bytes = x.response.bytes ++ (Json.int 7).compact.toUTF8 ∧
      y.response.contentTypeHeader = some "application/hal+json" ∧
      y.response.status.code = 203 ∧
      product.pairs ≠ turned.pairs ∧ z.response.bytes = y.response.bytes := by
  intro x y z
  have rendered : (singling.toView.render (some product) tagged x).1 = .ok () := rfl
  have shown (k : String) (w : Json) :
      singling.Shows tagged (some product) k w ↔ k = "id" ∧ w = .int 7 := by
    have own : singling.value? tagged (some product) "id" = some (.int 7) := rfl
    have absent : singling.value? tagged (some product) "absent" = none := rfl
    constructor
    · rintro ⟨admitted, value⟩
      have mem : k ∈ ["id", "absent", "id"] := admitted _ rfl
      obtain rfl | rfl : k = "id" ∨ k = "absent" := by simpa [or_comm, or_left_comm] using mem
      · exact ⟨rfl, Option.some.inj (value.symm.trans own)⟩
      · rw [absent] at value
        cases value
    · rintro ⟨rfl, rfl⟩
      refine ⟨?_, own⟩
      rintro _ ⟨⟩
      exact List.mem_cons_self
  have selected : tagged.attribute? selectedContentTypeAttribute =
      some (.str "application/hal+json") := rfl
  have asked : tagged.attribute? responseStatusAttribute = some (.int 203) := rfl
  have alike : Alike singling singling tagged tagged (some product) (some turned) :=
    ⟨product_same_turned, fun _ => rfl, fun _ => rfl, fun _ => .rfl, rfl, rfl⟩
  obtain ⟨⟨document, only, body⟩, contentType, status, _, _, _, again⟩ := render_toView rendered
  obtain rfl := (only (.int 7)).mp (.single rfl shown)
  obtain ⟨text, own, other⟩ := again singling tagged (some turned) x alike rfl
  rw [selected] at contentType
  rw [asked] at status
  have unlike : product.pairs.map Prod.fst ≠ turned.pairs.map Prod.fst := by decide
  exact ⟨rendered, body, contentType, (Int.ofNat.inj (Json.int.inj status)).symm,
    fun equal => unlike (congrArg _ equal), other.trans own.symm⟩

end JsonView

end Interception
