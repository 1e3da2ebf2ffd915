import Interception.Proofs.Ant.Subtree
import Interception.Proofs.Lifecycle

/-!
# Guards of a subtree

An interceptor that refuses every request, registered for a subtree, guards it. Whether the guard
is selected depends on nothing but the segments that the raw path of a request resolves to, so no
other spelling of a path leads around it; and once it is selected it is called before the handler,
if no interceptor before it ends the request already.
-/

namespace Interception

open Interception.Path Text

variable {σ : Type}

/-! ## The segments of a raw path -/

/-- The segments that a raw path resolves to: those that are kept of it when query, fragment and
parameters are cut off and the rest is decoded, or left as it is where it does not decode. -/
def Path.resolvedSegments (raw : List Char) : List (List Char) :=
  let path := raw.takeWhile fun c => c ≠ '?' ∧ c ≠ '#'
  let path := joined '/' ((pieces '/' path).map (List.takeWhile (· ≠ ';')))
  kept (pieces '/' ((Percent.decode? path).getD path))

theorem Path.before_eq_takeWhile {p q : Char → Bool} (h : ∀ c, p c = true ↔ ¬ q c = true) :
    before p = List.takeWhile q := by
  funext text
  rw [before]
  congr 1
  funext c
  rw [Bool.eq_iff_iff, Bool.not_eq_true', ← Bool.not_eq_true, h, not_not]

theorem Path.segments_plainPath (raw : List Char) :
    segments (Lookup.default.plainPath raw) = resolvedSegments raw := by
  have ends : before (fun c => c == '?' || c == '#') =
      List.takeWhile fun c => c ≠ '?' ∧ c ≠ '#' :=
    before_eq_takeWhile fun c => by simp [or_iff_not_imp_left]
  have parameters : before (· == ';') = List.takeWhile (· ≠ ';') :=
    before_eq_takeWhile fun c => by simp
  rw [segments_eq_kept, resolvedSegments]
  simp only [Lookup.plainPath, Lookup.default, dropParameters, parameters, ends, if_true]

/-- Without a context the lookup path is rendered from the resolved segments. -/
theorem Path.lookupPath_eq_render (raw : List Char) :
    ∃ slash, Lookup.default.lookupPath raw = render (resolvedSegments raw) slash :=
  ⟨_, by rw [← segments_plainPath]; rfl⟩

/-! ## Guards -/

/-- A mapping of an interceptor that refuses every request to the subtree below some segments. -/
structure Mapping.Guards (m : Mapping σ) (subtree : List (List Char)) : Prop where
  includes : m.includes = some [String.ofList (AntMatcher.subtree subtree)]
  excludes : m.excludes.getD [] = []
  matcher : m.matcher = none
  refuses : ∀ request handler x, (m.interceptor.preHandle request handler x).result = .ok false

/-- Without excludes the includes decide. -/
theorem Mapping.applies_of_includes {m : Mapping σ} {patterns : List String}
    (excludes : m.excludes.getD [] = []) (includes : m.includes = some patterns)
    (fallback : PathMatcher) (path : String) :
    m.applies fallback path = (m.decider fallback).matchesAny path patterns := by
  rw [applies, excludes, includes]
  rfl

/-- A guard applies to a raw path exactly if the path resolves to one below it. -/
theorem Mapping.Guards.applies {m : Mapping σ} {subtree : List (List Char)}
    (h : m.Guards subtree) (plain : ∀ segment ∈ subtree, AntMatcher.IsPlain segment)
    (raw : List Char) :
    m.applies AntMatcher.default.toPathMatcher (String.ofList (Lookup.default.lookupPath raw)) =
      .ok (decide (subtree <+: resolvedSegments raw)) := by
  obtain ⟨slash, path⟩ := lookupPath_eq_render raw
  have isPath : ∀ segment ∈ resolvedSegments raw, segment ≠ [] ∧ '/' ∉ segment := by
    intro segment mem
    rw [← segments_plainPath] at mem
    have own := isSegment_of_mem_segments mem
    exact ⟨own.ne_nil, own.no_slash⟩
  have matched := AntMatcher.isMatch_subtree plain isPath slash
  rw [Mapping.applies_of_includes h.excludes h.includes, Mapping.decider, h.matcher, path]
  simp only [Option.getD_none, PathMatcher.matchesAny, AntMatcher.toPathMatcher,
    PathMatcher.ofFunction_isMatch, String.toList_ofList, matched]
  cases decide (subtree <+: resolvedSegments raw) <;> rfl

/-- Neither the handler nor a view is called when one of the selected interceptors refuses. -/
theorem IsLifecycle.position_isSome {d : Dispatcher σ} {request : Request}
    {selected : List (Placed σ)} {calls : List (Call σ)} {result : Except DispatchError Unit}
    (h : IsLifecycle d request selected calls result) {p : Placed σ} (mem : p ∈ selected)
    (refuses : ∀ request handler x, (p.1.preHandle request handler x).result = .ok false) :
    ∀ call ∈ calls, call.position?.isSome = true := by
  obtain ⟨phases, completion, rfl, lawful, completed⟩ := h
  have stopped : passes phases.before < selected.length := by
    refine lawful.before.passes_lt mem ?_
    rintro _ ⟨x, rfl⟩
    rw [refuses]
    rfl
  have handling : phases.handling = [] := lawful.not_handled (Nat.ne_of_lt stopped)
  have unanswered : ¬ phases.Answered := by
    rintro ⟨call, mem, _⟩
    rw [handling] at mem
    cases mem
  have rendering : phases.rendering = [] := by
    by_contra ne
    exact unanswered (lawful.of_rendering ne).1
  intro call mem
  rw [Phases.steps, handling, lawful.not_after unanswered, rendering] at mem
  simp only [List.append_nil] at mem
  obtain mem | mem := List.mem_append.mp mem
  · obtain ⟨p, _, made⟩ := lawful.before.exists_of_mem mem
    rw [made.position]
    rfl
  · obtain ⟨p, _, made⟩ := exists_of_mem_forall₂ completed mem
    rw [made.position]
    rfl

namespace Dispatcher

/-- No spelling of a path leads around a guard. Where the path of a request resolves to one in the
subtree of a guard, neither the handler nor a view is called, and elsewhere the guard is not. -/
theorem guard_of_subtree (d : Dispatcher σ) (request : Request) (x : Exchange σ)
    {m : Mapping σ} {position : Nat} {subtree : List (List Char)}
    (matcher : d.registry.matcher = AntMatcher.default.toPathMatcher)
    (lookup : d.lookup = .default) (mapped : d.registry.mappings[position]? = some m)
    (guards : m.Guards subtree) (plain : ∀ segment ∈ subtree, AntMatcher.IsPlain segment) :
    (subtree <+: resolvedSegments request.path.toList → ∀ call ∈ d.log request x,
      (∀ request on result, call ≠ .handle request on result) ∧
      ∀ model request on result, call ≠ .render model request on result) ∧
    (¬ subtree <+: resolvedSegments request.path.toList → ∀ call ∈ d.log request x,
      call.position? ≠ some position) := by
  have applies : m.applies d.registry.matcher (d.pathOf request) =
      .ok (decide (subtree <+: resolvedSegments request.path.toList)) := by
    rw [matcher, pathOf, lookup]
    exact guards.applies plain _
  cases selected : d.registry.select (d.pathOf request) with
  | error e =>
      rw [log_of_select_error selected]
      constructor
      · intro _ call mem
        cases mem
      · intro _ call mem
        cases mem
  | ok entries =>
      have lifecycle := log_of_select selected x
      constructor
      · intro below call mem
        have chosen : (m, position) ∈ entries := by
          rw [Registry.mem_select selected, applies, decide_eq_true below]
          exact ⟨mapped, rfl⟩
        have called := lifecycle.position_isSome (List.mem_map_of_mem chosen) guards.refuses
          call mem
        constructor
        · rintro request on result rfl
          cases called
        · rintro model request on result rfl
          cases called
      · intro beside call mem own
        have chosen := lifecycle.mem_positions mem own
        rw [Placed.positions_ofEntry] at chosen
        obtain ⟨other, found, accepted⟩ := Registry.exists_of_mem_positions selected chosen
        obtain rfl := Option.some.inj (mapped.symm.trans found)
        rw [applies, decide_eq_false beside] at accepted
        cases accepted

/-- A dispatcher with a guard of the subtree `/admin` behind another interceptor. -/
def guarded : Dispatcher Unit where
  registry := ⟨[.everywhere .passThrough, ⟨.refusing, some ["/admin/**"], none, none⟩],
    AntMatcher.default.toPathMatcher⟩
  handler _ := pure (.ok none)
  handlerRef := ⟨none⟩
  resolver := none
  lookup := .default

theorem guard_of_subtree_encoded :
    [['a', 'd', 'm', 'i', 'n']] <+: resolvedSegments "/p/..;v=1/%61dmin/x?q".toList ∧
      ∀ call ∈ guarded.log ⟨"GET", "/p/..;v=1/%61dmin/x?q", ∅⟩ (.start ()),
        (∀ request on result, call ≠ .handle request on result) ∧
        ∀ model request on result, call ≠ .render model request on result := by
  have guards : Mapping.Guards (σ := Unit) ⟨.refusing, some ["/admin/**"], none, none⟩
      [['a', 'd', 'm', 'i', 'n']] := ⟨by decide, rfl, rfl, fun _ _ _ => rfl⟩
  have plain : ∀ segment ∈ [['a', 'd', 'm', 'i', 'n']], AntMatcher.IsPlain segment := by
    intro segment mem
    obtain rfl := List.mem_singleton.mp mem
    exact ⟨List.cons_ne_nil _ _, by simp⟩
  have mapped : guarded.registry.mappings[1]? =
      some ⟨.refusing, some ["/admin/**"], none, none⟩ := rfl
  have below : [['a', 'd', 'm', 'i', 'n']] <+:
      resolvedSegments "/p/..;v=1/%61dmin/x?q".toList := by decide +kernel
  exact ⟨below, (guard_of_subtree guarded ⟨"GET", "/p/..;v=1/%61dmin/x?q", ∅⟩ (.start ())
    rfl rfl mapped guards plain).1 below⟩

end Dispatcher

end Interception
