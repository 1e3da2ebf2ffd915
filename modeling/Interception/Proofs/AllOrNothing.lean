import Interception.Proofs.Coverage
import Interception.Proofs.Lifecycle

/-!
# All or nothing

A registry selects for a path the mappings that cover it, in the order of their registration, as
long as every mapping can tell whether it applies. If one of them cannot, nothing is selected: the
selection fails with the fault of the first such mapping, and a request for the path fails with it
before anything is called or written.
-/

namespace Interception

namespace Registry

variable {σ : Type} (r : Registry σ) (path : String)

/-- The mappings that cover a path, each with its position, in the order of registration. -/
def covering : List (Mapping σ × Nat) :=
  r.mappings.zipIdx.filter fun entry => entry.1.Covers r.matcher path

/-- Whether a fault is that of the first mapping that cannot tell whether it applies to a path. -/
def IsFirstFault (e : PatternError) : Prop :=
  ∃ before m after, r.mappings = before ++ m :: after ∧
    (∀ other ∈ before, ∃ b, other.applies r.matcher path = .ok b) ∧
    m.applies r.matcher path = .error e

theorem map_fst_covering :
    (r.covering path).map Prod.fst = r.mappings.filter fun m => m.Covers r.matcher path := by
  calc (r.covering path).map Prod.fst
      = (r.mappings.zipIdx.map Prod.fst).filter fun m => m.Covers r.matcher path := by
        rw [covering, List.filter_map]
        rfl
    _ = r.mappings.filter fun m => m.Covers r.matcher path := by rw [List.zipIdx_map_fst]

variable {r path}

theorem select_eq_covering (all : ∀ m ∈ r.mappings, ∃ b, m.applies r.matcher path = .ok b) :
    r.select path = .ok (r.covering path) := by
  have tested : ∀ entry ∈ r.mappings.zipIdx, ∃ b, entry.1.applies r.matcher path = .ok b :=
    fun entry mem => all entry.1 (List.fst_mem_of_mem_zipIdx mem)
  refine selectBy_eq_ok_iff.mpr ⟨tested, List.filter_congr fun entry mem => ?_⟩
  obtain ⟨b, own⟩ := tested entry mem
  have taken : accepted (fun entry : Mapping σ × Nat => entry.1.applies r.matcher path) entry = b :=
    accepted_of_ok own
  rw [taken, Bool.eq_iff_iff, decide_eq_true_iff, Mapping.applies_iff own]

/-- The first mapping at fault is found behind mappings with positions as well as without. -/
theorem isFirstFault_of_select {e : PatternError} (h : r.select path = .error e) :
    r.IsFirstFault path e := by
  obtain ⟨before, entry, after, split, fine, fault⟩ := first_error_of_selectBy h
  refine ⟨before.map Prod.fst, entry.1, after.map Prod.fst, ?_, List.forall_mem_map.mpr fine,
    fault⟩
  rw [← List.zipIdx_map_fst 0 r.mappings, split, List.map_append, List.map_cons]

theorem exists_select_error (some : ∃ m ∈ r.mappings, ∃ e, m.applies r.matcher path = .error e) :
    ∃ e, r.select path = .error e := by
  cases selected : r.select path with
  | error e => exact ⟨e, rfl⟩
  | ok entries =>
      obtain ⟨m, mem, e, fault⟩ := some
      obtain ⟨position, own⟩ := List.mem_iff_getElem?.mp mem
      obtain ⟨b, tested⟩ := (selectBy_eq_ok_iff.mp selected).1 (m, position)
        (List.mk_mem_zipIdx_iff_getElem?.mpr own)
      rw [fault] at tested
      cases tested

end Registry

namespace Dispatcher

variable {σ : Type} {d : Dispatcher σ} {request : Request}

/-- A request ends at once if the selection fails. -/
theorem dispatch_of_select_error {e : PatternError}
    (h : d.registry.select (d.pathOf request) = .error e) (x : Exchange σ) :
    d.dispatch request x = .done (.error (.pattern e)) x := by
  rw [dispatch, Registry.chainFor_of_select_error h]
  rfl

end Dispatcher

namespace Registry

variable {σ : Type}

/-- If every mapping can tell whether it applies to a path, those that cover the path are selected,
each once and in the order of registration. Otherwise selection fails with the fault of the first
that cannot tell, and so does a request for the path: nothing is called, and the exchange is left as
it was. -/
theorem select_all_or_nothing (r : Registry σ) (path : String) :
    ((∀ m ∈ r.mappings, ∃ b, m.applies r.matcher path = .ok b) →
      r.matching path =
        .ok (r.covering path, r.selected path (r.covering path).length) ∧
      (r.covering path).map Prod.fst = (r.mappings.filter fun m => m.Covers r.matcher path) ∧
      r.chainFor path =
        .ok (Chain.ofList ((r.mappings.filter fun m => m.Covers r.matcher path).map
          Mapping.toInterceptor), r.selected path (r.covering path).length)) ∧
    ((∃ m ∈ r.mappings, ∃ e, m.applies r.matcher path = .error e) →
      ∃ e, r.IsFirstFault path e ∧ r.matching path = .error e ∧ r.chainFor path = .error e ∧
        ∀ (d : Dispatcher σ) (request : Request) (x : Exchange σ), d.registry = r →
          d.pathOf request = path →
          d.dispatch request x = .done (.error (.pattern e)) x ∧ d.log request x = []) := by
  constructor
  · intro all
    have selected := select_eq_covering all
    refine ⟨?_, map_fst_covering r path, ?_⟩
    · rw [matching, selected]
      rfl
    · rw [chainFor, matching, selected, ← map_fst_covering, List.map_map]
      rfl
  · intro some
    obtain ⟨e, failed⟩ := exists_select_error some
    refine ⟨e, isFirstFault_of_select failed, ?_, chainFor_of_select_error failed, ?_⟩
    · rw [matching, failed]
      rfl
    · rintro d request x rfl rfl
      exact ⟨Dispatcher.dispatch_of_select_error failed x, Dispatcher.log_of_select_error failed x⟩

/-- A registry of three mappings, for all paths, for the paths of a pattern, and for none. -/
def sample (pattern : String) : Registry Unit where
  mappings := [.everywhere .passThrough, ⟨.refusing, some [pattern], none, none⟩,
    ⟨.passThrough, some [], none, none⟩]
  matcher := AntMatcher.default.toPathMatcher

/-- The pattern `/a/*` decides about the second mapping, and one with an open brace is at fault. -/
theorem select_all_or_nothing_sample :
    (sample "/a/*").matching "/a/b" =
      .ok ((sample "/a/*").covering "/a/b", (sample "/a/*").selected "/a/b" 2) ∧
    ∃ e, (sample "/a/\x7b").IsFirstFault "/a/b" e ∧
      (sample "/a/\x7b").matching "/a/b" = .error e := by
  have all : ∀ m ∈ (sample "/a/*").mappings,
      ∃ b, m.applies (sample "/a/*").matcher "/a/b" = .ok b := by
    refine List.forall_mem_cons.mpr ⟨⟨true, rfl⟩, List.forall_mem_cons.mpr ⟨⟨true, ?_⟩,
      List.forall_mem_singleton.mpr ⟨false, rfl⟩⟩⟩
    decide +kernel
  have some : ∃ m ∈ (sample "/a/\x7b").mappings,
      ∃ e, m.applies (sample "/a/\x7b").matcher "/a/b" = .error e := by
    refine ⟨_, List.mem_cons_of_mem _ List.mem_cons_self, .unclosedVariable "/a/\x7b", ?_⟩
    decide +kernel
  have count : ((sample "/a/*").covering "/a/b").length = 2 := by decide +kernel
  obtain ⟨selected, _⟩ := (select_all_or_nothing (sample "/a/*") "/a/b").1 all
  obtain ⟨e, first, failed, _⟩ := (select_all_or_nothing (sample "/a/\x7b") "/a/b").2 some
  rw [count] at selected
  exact ⟨selected, e, first, failed⟩

end Registry

end Interception
