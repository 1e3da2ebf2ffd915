import Interception.Proofs.Chain

/-!
# What is selected

A selection keeps the order of the registry and takes exactly the mappings that apply. It fails if
one of the mappings cannot tell.
-/

namespace Interception

section SelectBy

variable {α β ε : Type} {test : α → Except ε Bool} {as chosen : List α}

/-- Whether the test has a result, and accepts. -/
def accepted (test : α → Except ε Bool) (a : α) : Bool := (test a).toOption.getD false

theorem accepted_of_ok {a : α} {b : Bool} (h : test a = .ok b) : accepted test a = b := by
  rw [accepted, h]
  rfl

/-- A selection is what a filter takes, if every test has a result. -/
theorem selectBy_eq_ok_iff : selectBy test as = .ok chosen ↔
    (∀ a ∈ as, ∃ b, test a = .ok b) ∧ chosen = as.filter (accepted test) := by
  induction as generalizing chosen with
  | nil =>
      rw [selectBy, Except.ok.injEq, eq_comm]
      simp
  | cons a as ih =>
      rw [List.forall_mem_cons]
      cases tested : test a with
      | error e => simp [selectBy, tested, bind, Except.bind]
      | ok b =>
          cases selected : selectBy test as with
          | error e =>
              have failed : ¬ ∀ a ∈ as, ∃ b, test a = .ok b := by
                intro all
                have found := ih.mpr ⟨all, rfl⟩
                rw [selected] at found
                cases found
              have ran : selectBy test (a :: as) = .error e := by
                simp [selectBy, tested, selected, bind, Except.bind]
              rw [ran]
              constructor
              · intro h
                cases h
              · rintro ⟨⟨_, all⟩, _⟩
                exact absurd all failed
          | ok others =>
              obtain ⟨all, rfl⟩ := ih.mp selected
              have ran : selectBy test (a :: as) =
                  .ok (if b then a :: as.filter (accepted test) else as.filter (accepted test)) := by
                simp [selectBy, tested, selected, bind, Except.bind, pure, Except.pure]
              rw [ran, Except.ok.injEq, List.filter_cons, accepted_of_ok tested, eq_comm]
              exact ⟨fun h => ⟨⟨⟨b, rfl⟩, all⟩, h⟩, And.right⟩

theorem mem_of_selectBy (h : selectBy test as = .ok chosen) {a : α} :
    a ∈ chosen ↔ a ∈ as ∧ test a = .ok true := by
  obtain ⟨tested, rfl⟩ := selectBy_eq_ok_iff.mp h
  rw [List.mem_filter]
  refine and_congr_right fun mem => ?_
  obtain ⟨b, hb⟩ := tested a mem
  rw [accepted_of_ok hb, hb, Except.ok.injEq]

/-- A selection that fails does so with the first error of its test. -/
theorem first_error_of_selectBy {e : ε} (h : selectBy test as = .error e) :
    ∃ before a after, as = before ++ a :: after ∧ (∀ b ∈ before, ∃ r, test b = .ok r) ∧
      test a = .error e := by
  induction as with
  | nil => cases h
  | cons a as ih =>
      rw [selectBy] at h
      cases tested : test a with
      | error e' =>
          rw [tested] at h
          cases h
          exact ⟨[], a, as, rfl, by simp, tested⟩
      | ok accepted =>
          rw [tested] at h
          cases selected : selectBy test as with
          | error e' =>
              rw [selected] at h
              cases h
              obtain ⟨before, b, after, rfl, fine, fault⟩ := ih selected
              refine ⟨a :: before, b, after, rfl, ?_, fault⟩
              exact List.forall_mem_cons.mpr ⟨⟨accepted, tested⟩, fine⟩
          | ok others =>
              rw [selected] at h
              cases h

/-- Elements may be changed before a selection or after it. -/
theorem selectBy_map (f : β → α) (bs : List β) :
    selectBy test (bs.map f) = (selectBy (fun b => test (f b)) bs).map (List.map f) := by
  induction bs with
  | nil => rfl
  | cons b bs ih =>
      simp only [List.map_cons, selectBy, ih]
      cases test (f b) with
      | error e => rfl
      | ok accepted =>
          cases selectBy (fun b => test (f b)) bs with
          | error e => rfl
          | ok chosen => cases accepted <;> rfl

end SelectBy

namespace Registry

variable {σ : Type} {r : Registry σ} {path : String} {entries : List (Mapping σ × Nat)}

theorem mem_select (h : r.select path = .ok entries) {m : Mapping σ} {position : Nat} :
    (m, position) ∈ entries ↔
      r.mappings[position]? = some m ∧ m.applies r.matcher path = .ok true := by
  rw [mem_of_selectBy h, List.mk_mem_zipIdx_iff_getElem?]

theorem exists_of_mem_positions (h : r.select path = .ok entries) {position : Nat}
    (mem : position ∈ entries.map Prod.snd) :
    ∃ m, r.mappings[position]? = some m ∧ m.applies r.matcher path = .ok true := by
  obtain ⟨⟨m, _⟩, chosen, rfl⟩ := List.mem_map.mp mem
  exact ⟨m, (mem_select h).mp chosen⟩

/-- Every mapping is selected at most once, in the order of the registry. -/
theorem pairwise_select (h : r.select path = .ok entries) :
    entries.Pairwise fun a b => a.2 < b.2 := by
  obtain ⟨_, rfl⟩ := selectBy_eq_ok_iff.mp h
  refine List.Pairwise.filter _ ?_
  rw [List.pairwise_iff_getElem]
  intro i j _ _ before
  simpa using before

end Registry

/-- A selected mapping's interceptor with its position. -/
def Placed.ofEntry {σ : Type} (entry : Mapping σ × Nat) : Placed σ :=
  (entry.1.interceptor, entry.2)

theorem Placed.positions_ofEntry {σ : Type} (entries : List (Mapping σ × Nat)) :
    (entries.map Placed.ofEntry).map Prod.snd = entries.map Prod.snd := by
  rw [List.map_map]
  rfl

namespace Registry

variable {σ : Type} (r : Registry σ) (path : String)

theorem zipIdx_observed :
    r.observed.mappings.zipIdx =
      r.mappings.zipIdx.map fun entry => (entry.1.observed entry.2, entry.2) := by
  apply List.ext_getElem
  · simp [observed]
  · intro i _ _
    simp [observed]

/-- Under observation the same mappings are selected. -/
theorem select_observed :
    r.observed.select path = (r.select path).map
      (List.map fun entry => (entry.1.observed entry.2, entry.2)) := by
  rw [select, zipIdx_observed, selectBy_map]
  rfl

variable {r path}

theorem chainFor_of_select {entries : List (Mapping σ × Nat)} (h : r.select path = .ok entries) :
    r.chainFor path =
      .ok (Chain.after (entries.map Placed.ofEntry) 0, r.selected path entries.length) := by
  have interceptors : (entries.map Placed.ofEntry).map Prod.fst =
      entries.map fun entry => entry.1.interceptor := by
    rw [List.map_map]
    rfl
  simp only [chainFor, matching, h, Chain.after, interceptors]
  rfl

theorem chainFor_observed_of_select {entries : List (Mapping σ × Nat)}
    (h : r.select path = .ok entries) :
    r.observed.chainFor path =
      .ok ((Chain.after (entries.map Placed.ofEntry) 0).observedAs (entries.map Placed.ofEntry),
        r.selected path entries.length) := by
  have selected : r.observed.select path =
      .ok (entries.map fun entry => (entry.1.observed entry.2, entry.2)) := by
    rw [select_observed, h]
    rfl
  have interceptors : (entries.map Placed.ofEntry).map Placed.observed =
      (entries.map fun entry => (entry.1.observed entry.2, entry.2)).map
        fun entry => entry.1.interceptor := by
    rw [List.map_map, List.map_map]
    rfl
  have registered : r.observed.mappings.length = r.mappings.length := by
    simp [observed]
  have reported := chainFor_of_select selected
  rw [Registry.selected, registered, List.length_map] at reported
  rw [reported]
  simp only [Chain.after, Chain.observedAs, interceptors, Registry.selected, List.map_map]
  rfl

theorem chainFor_of_select_error {e : PatternError} (h : r.select path = .error e) :
    r.chainFor path = .error e := by
  rw [chainFor, matching, h]
  rfl

theorem chainFor_observed_of_select_error {e : PatternError} (h : r.select path = .error e) :
    r.observed.chainFor path = .error e := by
  apply chainFor_of_select_error
  rw [select_observed, h]
  rfl

end Registry

end Interception
