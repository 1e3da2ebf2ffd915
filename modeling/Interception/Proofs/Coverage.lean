import Interception.Ant.Matcher
import Interception.Mapping
import Mathlib.Data.Finset.Dedup

/-!
# Which paths a mapping covers

A mapping covers a path if none of its exclude patterns matches the path and, where it has a list of
include patterns, one of these does. Nothing is said here about the order in which patterns are
tried, or how often one is listed.

A mapping that can tell whether it applies to a path applies exactly if it covers the path, and it
can tell if none of its patterns is at fault. So the order of patterns decides at most whether a
fault is come upon before the answer is clear.
-/

namespace Interception

namespace PathMatcher

variable {m : PathMatcher} {path : String} {patterns : List String}

/-- The answer is whether one of the patterns matches. -/
theorem matchesAny_iff {b : Bool} (h : m.matchesAny path patterns = .ok b) :
    b = true ↔ ∃ pattern ∈ patterns, m.isMatch pattern path = .ok true := by
  induction patterns with
  | nil =>
      cases h
      simp
  | cons pattern patterns ih =>
      rw [matchesAny] at h
      cases tried : m.isMatch pattern path with
      | error e =>
          rw [tried] at h
          cases h
      | ok found =>
          rw [tried] at h
          cases found with
          | true =>
              cases h
              simp [tried]
          | false => simpa [tried] using ih h

theorem exists_matchesAny (fine : ∀ pattern ∈ patterns, ∃ b, m.isMatch pattern path = .ok b) :
    ∃ b, m.matchesAny path patterns = .ok b := by
  induction patterns with
  | nil => exact ⟨false, rfl⟩
  | cons pattern patterns ih =>
      obtain ⟨⟨found, own⟩, others⟩ := List.forall_mem_cons.mp fine
      rw [matchesAny, own]
      cases found with
      | true => exact ⟨true, rfl⟩
      | false => exact ih others

end PathMatcher

namespace Mapping

variable {σ : Type} {m : Mapping σ} {fallback : PathMatcher} {path : String} {b : Bool}

/-- Whether the mapping is for a path: no exclude pattern matches it, and some include pattern
does, if there is a list of them. -/
structure Covers (m : Mapping σ) (fallback : PathMatcher) (path : String) : Prop where
  notExcluded : ∀ pattern ∈ m.excludes.getD [],
    (m.decider fallback).isMatch pattern path ≠ .ok true
  included : ∀ includes ∈ m.includes, ∃ pattern ∈ includes,
    (m.decider fallback).isMatch pattern path = .ok true

instance : Decidable (m.Covers fallback path) :=
  decidable_of_iff
    ((∀ pattern ∈ m.excludes.getD [], (m.decider fallback).isMatch pattern path ≠ .ok true) ∧
      ∀ includes ∈ m.includes, ∃ pattern ∈ includes,
        (m.decider fallback).isMatch pattern path = .ok true)
    ⟨fun h => ⟨h.1, h.2⟩, fun h => ⟨h.1, h.2⟩⟩

/-- The patterns that the mapping lists. -/
def patterns (m : Mapping σ) : List String := m.excludes.getD [] ++ m.includes.getD []

theorem applies_eq (m : Mapping σ) (fallback : PathMatcher) (path : String) :
    m.applies fallback path =
      match (m.decider fallback).matchesAny path (m.excludes.getD []) with
      | .error e => .error e
      | .ok true => .ok false
      | .ok false =>
        match m.includes with
        | none => .ok true
        | some includes => (m.decider fallback).matchesAny path includes := by
  rw [applies]
  rcases (m.decider fallback).matchesAny path (m.excludes.getD []) with e | _ | _
  · rfl
  · cases m.includes <;> rfl
  · rfl

/-- A mapping that has an answer applies exactly if it covers the path. -/
theorem applies_iff (h : m.applies fallback path = .ok b) :
    b = true ↔ m.Covers fallback path := by
  rw [applies_eq] at h
  cases excluded : (m.decider fallback).matchesAny path (m.excludes.getD []) with
  | error e =>
      rw [excluded] at h
      cases h
  | ok found =>
      rw [excluded] at h
      have excludes := PathMatcher.matchesAny_iff excluded
      cases found with
      | true =>
          cases h
          obtain ⟨pattern, mem, own⟩ := excludes.mp rfl
          exact iff_of_false nofun fun covers => covers.notExcluded pattern mem own
      | false =>
          have free : ∀ pattern ∈ m.excludes.getD [],
              (m.decider fallback).isMatch pattern path ≠ .ok true := by
            intro pattern mem own
            exact absurd (excludes.mpr ⟨pattern, mem, own⟩) nofun
          cases own : m.includes with
          | none =>
              rw [own] at h
              cases h
              exact iff_of_true rfl ⟨free, by simp [own]⟩
          | some includes =>
              rw [own] at h
              rw [PathMatcher.matchesAny_iff h]
              constructor
              · intro some
                exact ⟨free, by simpa [own] using some⟩
              · intro covers
                exact covers.included includes own

/-- A mapping has an answer if none of its patterns is at fault. -/
theorem exists_applies
    (fine : ∀ pattern ∈ m.patterns, ∃ b, (m.decider fallback).isMatch pattern path = .ok b) :
    ∃ b, m.applies fallback path = .ok b := by
  obtain ⟨excludes, includes⟩ := List.forall_mem_append.mp fine
  obtain ⟨found, excluded⟩ := PathMatcher.exists_matchesAny excludes
  rw [applies_eq, excluded]
  cases found with
  | true => exact ⟨false, rfl⟩
  | false =>
      cases own : m.includes with
      | none => exact ⟨true, rfl⟩
      | some listed =>
          rw [own] at includes
          exact PathMatcher.exists_matchesAny includes

/-! ## Order and repetition -/

/-- Lists of patterns that are both absent, or have the same elements, list the same patterns. -/
theorem mem_getD_of_toFinset_eq {listed listed' : Option (List String)}
    (same : listed.map List.toFinset = listed'.map List.toFinset) {pattern : String} :
    pattern ∈ listed.getD [] ↔ pattern ∈ listed'.getD [] := by
  rw [← List.mem_toFinset, ← Option.getD_map List.toFinset, same, Option.getD_map,
    List.mem_toFinset]

variable {m' : Mapping σ}

section Same

variable (excludes : m.excludes.map List.toFinset = m'.excludes.map List.toFinset)
variable (includes : m.includes.map List.toFinset = m'.includes.map List.toFinset)
include excludes includes

theorem mem_patterns_of_toFinset_eq {pattern : String} (mem : pattern ∈ m'.patterns) :
    pattern ∈ m.patterns := by
  rw [patterns, List.mem_append, mem_getD_of_toFinset_eq excludes,
    mem_getD_of_toFinset_eq includes]
  exact List.mem_append.mp mem

variable (matcher : m.matcher = m'.matcher)
include matcher

/-- What a mapping covers depends on its matcher and on the sets of its patterns alone. -/
theorem Covers.of_toFinset_eq (h : m.Covers fallback path) : m'.Covers fallback path := by
  have decider : m.decider fallback = m'.decider fallback := by rw [decider, matcher, decider]
  constructor
  · rw [← decider]
    intro pattern mem
    exact h.notExcluded pattern ((mem_getD_of_toFinset_eq excludes).mpr mem)
  · rw [← decider]
    intro listed' own'
    rw [Option.mem_def.mp own', Option.map_some, Option.map_eq_some_iff] at includes
    obtain ⟨listed, own, same⟩ := includes
    obtain ⟨pattern, mem, matched⟩ := h.included listed own
    refine ⟨pattern, ?_, matched⟩
    rwa [← List.mem_toFinset, ← same, List.mem_toFinset]

theorem covers_iff_of_toFinset_eq : m.Covers fallback path ↔ m'.Covers fallback path :=
  ⟨fun h => h.of_toFinset_eq excludes includes matcher,
    fun h => h.of_toFinset_eq excludes.symm includes.symm matcher.symm⟩

/-- Two mappings with the same sets of patterns, in any order and with any repetitions, never
disagree about a path: where both have an answer it is the same one, and both have an answer if no
pattern is at fault. -/
theorem applies_reordered (fallback : PathMatcher) (path : String) :
    (∀ b b', m.applies fallback path = .ok b → m'.applies fallback path = .ok b' → b = b') ∧
    ((∀ pattern ∈ m.patterns, ∃ b, (m.decider fallback).isMatch pattern path = .ok b) →
      ∃ b, m.applies fallback path = .ok b ∧ m'.applies fallback path = .ok b) := by
  have agree : ∀ b b', m.applies fallback path = .ok b → m'.applies fallback path = .ok b' →
      b = b' := by
    intro b b' own own'
    rw [Bool.eq_iff_iff, applies_iff own, applies_iff own']
    exact covers_iff_of_toFinset_eq excludes includes matcher
  refine ⟨agree, fun fine => ?_⟩
  have fine' : ∀ pattern ∈ m'.patterns,
      ∃ b, (m'.decider fallback).isMatch pattern path = .ok b := by
    intro pattern mem
    rw [decider, ← matcher]
    exact fine pattern (mem_patterns_of_toFinset_eq excludes includes mem)
  obtain ⟨b, own⟩ := exists_applies fine
  obtain ⟨b', own'⟩ := exists_applies fine'
  obtain rfl := agree b b' own own'
  exact ⟨b, own, own'⟩

end Same

/-- The patterns `/a/**` and `/b/*`, and the other way round with a repetition. -/
theorem applies_reordered_repeated :
    ∃ b,
      (⟨.passThrough, some ["/a/**", "/b/*"], none, none⟩ : Mapping Unit).applies
        AntMatcher.default.toPathMatcher "/b/z" = .ok b ∧
      (⟨.passThrough, some ["/b/*", "/a/**", "/b/*"], none, none⟩ : Mapping Unit).applies
        AntMatcher.default.toPathMatcher "/b/z" = .ok b := by
  have fine : ∀ pattern ∈ ["/a/**", "/b/*"],
      ∃ b, AntMatcher.default.toPathMatcher.isMatch pattern "/b/z" = .ok b := by
    refine List.forall_mem_cons.mpr ⟨⟨false, ?_⟩, List.forall_mem_singleton.mpr ⟨true, ?_⟩⟩ <;>
      decide +kernel
  exact (applies_reordered rfl (by decide) rfl _ _).2 fine

end Mapping

end Interception
