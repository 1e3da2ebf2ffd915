import Interception.Proofs.Ant.Alignment
import Interception.Proofs.Path.Segments

/-!
# Patterns for a subtree

The pattern of a subtree is a path of plain segments with `**` after it. A path in normal form
matches it exactly if the segments of the subtree are the first of its own.
-/

namespace Interception.Ant

/-! ## Literal tokens -/

variable {token : List Char}

theorem ne_star_of_not_isTemplate (h : isTemplate token = false) : token ≠ ['*'] := by
  rintro rfl
  cases h

theorem ne_spread_of_not_isTemplate (h : isTemplate token = false) : token ≠ spreadToken := by
  rintro rfl
  cases h

theorem Segment.compile_of_not_isTemplate {ignoreCase : Bool} (h : isTemplate token = false) :
    Segment.compile ignoreCase token = .ok (.literal token) := by
  rw [Segment.compile, if_neg (ne_star_of_not_isTemplate h), h]
  rfl

end Interception.Ant

namespace Interception.AntMatcher

open Ant Interception.Path Text

/-- A text that stands for itself as a token of a pattern. -/
structure IsPlain (text : List Char) : Prop where
  ne_nil : text ≠ []
  no_sign : ∀ c ∈ text, c ≠ '/' ∧ c ≠ '*' ∧ c ≠ '?' ∧ c ≠ '\x7b'

/-- The pattern of the subtree below some segments. -/
def subtree (segments : List (List Char)) : List Char :=
  segments.flatMap ('/' :: ·) ++ ['/', '*', '*']

theorem subtree_cons (segment : List Char) (segments : List (List Char)) :
    subtree (segment :: segments) = '/' :: (segment ++ subtree segments) := by
  simp [subtree]

/-- The pattern of a subtree is the path with one more segment. -/
theorem subtree_eq_render (segments : List (List Char)) :
    subtree segments = render (segments ++ [spreadToken]) false := by
  have joins : subtree segments = '/' :: joined '/' (segments ++ [spreadToken]) := by
    induction segments with
    | nil => rfl
    | cons segment segments ih =>
        have more : segments ++ [spreadToken] ≠ [] := by simp
        obtain ⟨other, others, h⟩ := List.exists_cons_of_ne_nil more
        rw [subtree_cons, ih, List.cons_append, h, joined_cons_cons]
  rw [render, joins, Bool.and_false]
  exact (List.append_nil _).symm

theorem tokens_default (text : List Char) : default.tokens text = standing text := by
  simp [tokens, default, standing]

section Literal

variable {m : AntMatcher} {token text : List Char}

theorem compile_of_not_isTemplate (h : isTemplate token = false) :
    m.compile token = .ok (.literal token) :=
  Segment.compile_of_not_isTemplate h

theorem accepts_self (h : isTemplate token = false) : m.Accepts token token := by
  refine ⟨_, compile_of_not_isTemplate h, ?_⟩
  cases ignore : !m.caseSensitive <;> simp [Segment.accepts, Segment.capture?]

/-- With letter case counting, a literal token accepts no text but itself. -/
theorem accepts_default_iff (h : isTemplate token = false) :
    default.Accepts token text ↔ token = text := by
  constructor
  · rintro ⟨segment, compiled, accepts⟩
    obtain rfl := Except.ok.inj ((compile_of_not_isTemplate h).symm.trans compiled)
    by_contra ne
    simp [Segment.accepts, Segment.capture?, default, ne] at accepts
  · rintro rfl
    exact accepts_self h

theorem IsPlain.not_isTemplate (h : IsPlain text) : isTemplate text = false := by
  rw [isTemplate, List.any_eq_false]
  intro c mem
  obtain ⟨_, star, mark, brace⟩ := h.no_sign c mem
  simp [star, mark, brace]

end Literal

/-! ## Subtrees -/

variable {segments path : List (List Char)}

theorem tokens_subtree (plain : ∀ segment ∈ segments, IsPlain segment) :
    default.tokens (subtree segments) = segments ++ [spreadToken] := by
  rw [tokens_default, subtree_eq_render]
  refine standing_render ?_ false
  intro segment mem
  obtain mem | mem := List.mem_append.mp mem
  · have own := plain segment mem
    exact ⟨own.ne_nil, fun slash => (own.no_sign '/' slash).1 rfl⟩
  · obtain rfl := List.mem_singleton.mp mem
    simp [spreadToken]

/-- The blocks are one segment each, and in the end whatever is left. -/
theorem cuts_subtree_iff (plain : ∀ segment ∈ segments, IsPlain segment) :
    default.Cuts (segments ++ [spreadToken]) path ↔ segments <+: path := by
  induction segments generalizing path with
  | nil =>
      refine ⟨fun _ => List.nil_prefix, fun _ => ⟨[path], by simp, ?_⟩⟩
      exact .cons (.inl rfl) .nil
  | cons segment segments ih =>
      obtain ⟨own, others⟩ := List.forall_mem_cons.mp plain
      have ne := ne_spread_of_not_isTemplate own.not_isTemplate
      rw [List.cons_append, cuts_cons_iff, List.cons_prefix_iff]
      constructor
      · rintro ⟨block, rest, rfl, takes, cuts⟩
        obtain isSpread | ⟨text, rfl, accepts⟩ := takes
        · exact absurd isSpread ne
        · obtain rfl := (accepts_default_iff own.not_isTemplate).mp accepts
          exact ⟨rest, rfl, (ih others).mp cuts⟩
      · rintro ⟨rest, rfl, isPrefix⟩
        have accepts := (accepts_default_iff own.not_isTemplate).mpr rfl
        exact ⟨[segment], rest, rfl, .inr ⟨segment, rfl, accepts⟩, (ih others).mpr isPrefix⟩

theorem isSound_subtree (plain : ∀ segment ∈ segments, IsPlain segment) :
    ∀ token ∈ default.tokens (subtree segments),
      (Token.ofText default.compile token).IsSound := by
  intro token mem
  rw [tokens_subtree plain] at mem
  rw [Token.ofText]
  split_ifs with isSpread
  · trivial
  · obtain mem | mem := List.mem_append.mp mem
    · exact ⟨_, compile_of_not_isTemplate (plain token mem).not_isTemplate⟩
    · exact absurd (List.mem_singleton.mp mem) isSpread

/-- A subtree has exactly the paths whose first segments are its own. -/
theorem isMatch_subtree (plain : ∀ segment ∈ segments, IsPlain segment)
    (isPath : ∀ segment ∈ path, segment ≠ [] ∧ '/' ∉ segment) (slash : Bool) :
    default.isMatch (subtree segments) (render path slash) = .ok (decide (segments <+: path)) := by
  obtain ⟨answer, answered⟩ := isMatch_total (isSound_subtree plain) (render path slash)
  have tokens : default.tokens (render path slash) = path := by
    rw [tokens_default, standing_render isPath]
  have matched : default.isMatch (subtree segments) (render path slash) = .ok true ↔
      segments <+: path := by
    rw [isMatch_eq_true_iff_capture, exists_capture_iff, Matches, tokens_subtree plain, tokens,
      cuts_subtree_iff plain]
    constructor
    · rintro ⟨_, ⟨isPrefix, _⟩ | ⟨front, split, _, _⟩⟩
      · exact isPrefix
      · have last := congrArg List.getLast? split
        simp [spreadToken] at last
    · intro isPrefix
      refine ⟨?_, .inl ⟨isPrefix, .inl (by simp)⟩⟩
      rw [subtree_eq_render]
      rfl
  rw [answered, Except.ok.injEq] at matched
  rw [answered, Bool.eq_iff_iff.mpr (matched.trans decide_eq_true_iff.symm)]

end Interception.AntMatcher
