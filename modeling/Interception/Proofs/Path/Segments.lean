import Interception.Path.Lookup
import Interception.Proofs.Text
import Mathlib.Tactic.Tauto

/-!
# The segments of a path

Dot segments said from left to right: the pieces of a path are kept one after the other, and `..`
takes back the one kept last. The stack of `resolveStep` holds the same list in reverse.

The segments of a path are found again in the path that is rendered from them. Nothing else about
rendering is needed to know what a matcher sees of a lookup path.
-/

namespace Interception.Path

open Text

/-- The segments that are kept, after one more piece. -/
def keepStep (kept : List (List Char)) (piece : List Char) : List (List Char) :=
  if piece = ['.', '.'] then kept.dropLast else kept ++ [piece]

/-- The segments that are kept of the pieces of a path: all but empty ones and `.`, where `..`
removes the one that was kept before it, if there is one. -/
def kept (pieces : List (List Char)) : List (List Char) :=
  (pieces.filter fun piece => piece ≠ [] ∧ piece ≠ ['.']).foldl keepStep []

/-- The normal form of a text: the segments that are kept between single slashes, with a slash in
front, and one at the end if there is a segment and the text ends with a slash. -/
def normalForm (text : List Char) : List Char :=
  '/' :: joined '/' (kept (pieces '/' text)) ++
    if kept (pieces '/' text) ≠ [] ∧ endsWith '/' text = true then ['/'] else []

theorem resolveStep_of_dropped {piece : List Char} (stack : List (List Char))
    (h : ¬ (piece ≠ [] ∧ piece ≠ ['.'])) : resolveStep stack piece = stack := by
  rw [resolveStep, if_pos (by tauto)]

theorem reverse_resolveStep {piece : List Char} (stack : List (List Char))
    (h : piece ≠ [] ∧ piece ≠ ['.']) :
    (resolveStep stack piece).reverse = keepStep stack.reverse piece := by
  rw [resolveStep, if_neg (by tauto), keepStep]
  split_ifs with dots
  · rw [List.dropLast_reverse]
  · rw [List.reverse_cons]

/-- The stack is the list of the segments kept, the last one first, at every piece. -/
theorem reverse_foldl_resolveStep (pieces stack : List (List Char)) :
    (pieces.foldl resolveStep stack).reverse =
      (pieces.filter fun piece => piece ≠ [] ∧ piece ≠ ['.']).foldl keepStep stack.reverse := by
  induction pieces generalizing stack with
  | nil => rfl
  | cons piece pieces ih =>
      by_cases h : piece ≠ [] ∧ piece ≠ ['.']
      · rw [List.filter_cons_of_pos (by simpa using h), List.foldl_cons, List.foldl_cons, ih,
          reverse_resolveStep stack h]
      · rw [List.filter_cons_of_neg (by simpa using h), List.foldl_cons, ih,
          resolveStep_of_dropped stack h]

theorem segments_eq_kept (path : List Char) : segments path = kept (pieces '/' path) :=
  reverse_foldl_resolveStep (pieces '/' path) []

theorem render_eq (segments : List (List Char)) (slash : Bool) :
    render segments slash =
      '/' :: joined '/' segments ++ if segments ≠ [] ∧ slash = true then ['/'] else [] := by
  rw [render]
  congr 2
  simp

theorem normalize_eq_normalForm (path : List Char) : normalize path = normalForm path := by
  rw [normalize, render_eq, normalForm, segments_eq_kept]

/-! ## What a segment can be -/

/-- A text that can be the segment of a path in normal form. -/
structure IsSegment (text : List Char) : Prop where
  ne_nil : text ≠ []
  ne_dot : text ≠ ['.']
  ne_dots : text ≠ ['.', '.']
  no_slash : '/' ∉ text

theorem forall_isSegment_keepStep {kept : List (List Char)} {piece : List Char}
    (h : ∀ segment ∈ kept, IsSegment segment) (hp : piece ≠ [] ∧ piece ≠ ['.'])
    (no_slash : '/' ∉ piece) : ∀ segment ∈ keepStep kept piece, IsSegment segment := by
  intro segment mem
  rw [keepStep] at mem
  split_ifs at mem with dots
  · exact h segment (List.dropLast_subset kept mem)
  · rcases List.mem_append.mp mem with mem | mem
    · exact h segment mem
    · obtain rfl := List.mem_singleton.mp mem
      exact ⟨hp.1, hp.2, dots, no_slash⟩

theorem forall_isSegment_foldl {pieces kept : List (List Char)}
    (h : ∀ segment ∈ kept, IsSegment segment)
    (hp : ∀ piece ∈ pieces, (piece ≠ [] ∧ piece ≠ ['.']) ∧ '/' ∉ piece) :
    ∀ segment ∈ pieces.foldl keepStep kept, IsSegment segment := by
  induction pieces generalizing kept with
  | nil => exact h
  | cons piece pieces ih =>
      obtain ⟨⟨hd, no_slash⟩, tl⟩ := List.forall_mem_cons.mp hp
      exact ih (forall_isSegment_keepStep h hd no_slash) tl

/-- Whatever the path, its segments are not empty, not dots, and without a slash. -/
theorem isSegment_of_mem_segments {path segment : List Char} (h : segment ∈ segments path) :
    IsSegment segment := by
  rw [segments_eq_kept] at h
  refine forall_isSegment_foldl (by simp) ?_ segment h
  intro piece mem
  obtain ⟨mem, hp⟩ := List.mem_filter.mp mem
  exact ⟨by simpa using hp, separator_notMem_of_mem_pieces mem⟩

theorem IsSegment.stands {text : List Char} (h : IsSegment text) : text ≠ [] ∧ '/' ∉ text :=
  ⟨h.ne_nil, h.no_slash⟩

/-! ## Rendered paths -/

/-- The segments that stand in a path as they are, dot segments among them. -/
def standing (path : List Char) : List (List Char) := (pieces '/' path).filter (!·.isEmpty)

theorem standing_slash_cons (text : List Char) : standing ('/' :: text) = standing text := by
  rw [standing, pieces_cons_separator]
  rfl

theorem standing_append_slash (left right : List Char) :
    standing (left ++ '/' :: right) = standing left ++ standing right := by
  rw [standing, pieces_append_separator, List.filter_append]
  rfl

section Rendered

variable {segments : List (List Char)} (h : ∀ segment ∈ segments, segment ≠ [] ∧ '/' ∉ segment)
include h

theorem standing_joined : standing (joined '/' segments) = segments := by
  cases segments with
  | nil => rfl
  | cons segment segments =>
      rw [standing, pieces_joined (List.cons_ne_nil _ _) fun text mem => (h text mem).2,
        List.filter_eq_self]
      intro text mem
      simpa using (h text mem).1

/-- In a rendered path its segments are found again. -/
theorem standing_render (slash : Bool) : standing (render segments slash) = segments := by
  rw [render, List.cons_append, standing_slash_cons]
  split_ifs
  · rw [standing_append_slash, standing_joined h]
    exact List.append_nil segments
  · rw [List.append_nil, standing_joined h]

end Rendered

end Interception.Path
