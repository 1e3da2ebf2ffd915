import Interception.Proofs.Path.Segments

/-!
# Paths in normal form

A path that is rendered from segments without dots is in normal form: resolving gives the same
segments again, the path ends with a slash if it was rendered with one, and so normalizing it
changes nothing.
-/

namespace Interception.Path

open Text

variable {segments kept : List (List Char)} {slash : Bool}

/-- Segments without dots are all kept. -/
theorem foldl_keepStep (h : ∀ segment ∈ segments, IsSegment segment) :
    segments.foldl keepStep kept = kept ++ segments := by
  induction segments generalizing kept with
  | nil => exact (List.append_nil kept).symm
  | cons segment segments ih =>
      obtain ⟨own, others⟩ := List.forall_mem_cons.mp h
      rw [List.foldl_cons, ih others, keepStep, if_neg own.ne_dots, List.append_assoc,
        List.singleton_append]

theorem segments_eq_foldl_standing (path : List Char) :
    Path.segments path = ((standing path).filter (· ≠ ['.'])).foldl keepStep [] := by
  rw [segments_eq_kept, kept, standing, List.filter_filter]
  congr 1
  refine List.filter_congr fun piece _ => ?_
  cases piece <;> simp

section Rendered

variable (h : ∀ segment ∈ segments, IsSegment segment)
include h

theorem segments_render : Path.segments (render segments slash) = segments := by
  have all : segments.filter (· ≠ ['.']) = segments :=
    List.filter_eq_self.mpr fun segment mem => decide_eq_true (h segment mem).ne_dot
  rw [segments_eq_foldl_standing, standing_render fun segment mem => (h segment mem).stands, all,
    foldl_keepStep h, List.nil_append]

theorem joined_ne_nil (ne : segments ≠ []) : joined '/' segments ≠ [] := by
  intro empty
  have found := standing_joined fun segment mem => (h segment mem).stands
  rw [empty] at found
  exact ne found.symm

theorem endsWith_joined : endsWith '/' (joined '/' segments) = false := by
  cases segments with
  | nil => rfl
  | cons segment others =>
      rw [Bool.eq_false_iff]
      intro ends
      obtain ⟨front, _, split⟩ := endsWith_iff_pieces.mp ends
      rw [pieces_joined (List.cons_ne_nil _ _) fun text mem => (h text mem).no_slash] at split
      exact (h [] (split ▸ List.mem_concat_self)).ne_nil rfl

/-- A rendered path ends with a slash if it is the root or was rendered with one. -/
theorem endsWith_render : endsWith '/' (render segments slash) = (segments.isEmpty || slash) := by
  cases segments with
  | nil => rfl
  | cons segment others =>
      cases slash with
      | true => exact endsWith_append _ (List.cons_ne_nil '/' [])
      | false =>
          have own : render (segment :: others) false = ['/'] ++ joined '/' (segment :: others) :=
            List.append_nil _
          rw [own, endsWith_append _ (joined_ne_nil h (List.cons_ne_nil _ _)), endsWith_joined h]
          rfl

theorem normalize_render : normalize (render segments slash) = render segments slash := by
  rw [normalize, segments_render h, endsWith_render h, render, render]
  cases segments <;> rfl

/-- The pieces of a rendered path are its segments between empty pieces: one for the slash in front,
and one for a slash at the end. -/
theorem pieces_render : pieces '/' (render segments slash) =
    [] :: (segments ++ if segments = [] ∨ slash = true then [[]] else []) := by
  rw [render_eq, List.cons_append, pieces_cons_separator]
  cases segments with
  | nil => rfl
  | cons segment others =>
      have own := pieces_joined (List.cons_ne_nil segment others) fun text mem => (h text mem).no_slash
      cases slash with
      | false => simp [own]
      | true =>
          rw [if_pos ⟨List.cons_ne_nil _ _, rfl⟩, if_pos (.inr rfl), pieces_append_separator, own]
          rfl

/-- An empty piece between two others would be a segment. -/
theorem not_slash_slash_infix_render : ¬ ['/', '/'] <:+: render segments slash := by
  rintro ⟨left, right, split⟩
  have found : pieces '/' (render segments slash) = _ := pieces_render h
  rw [← split, List.append_assoc, List.cons_append, List.singleton_append,
    pieces_append_separator, pieces_cons_separator] at found
  obtain ⟨first, front, own⟩ := List.exists_cons_of_ne_nil (pieces_ne_nil '/' left)
  rw [own, List.cons_append] at found
  have inner : [] ∈ (front ++ [] :: pieces '/' right).dropLast := by
    rw [List.dropLast_append_of_ne_nil (List.cons_ne_nil _ _),
      List.dropLast_cons_of_ne_nil (pieces_ne_nil '/' right)]
    exact List.mem_append_right _ List.mem_cons_self
  rw [(List.cons.inj found).2] at inner
  have isSegment : [] ∈ segments := by
    split_ifs at inner
    · rwa [List.dropLast_concat] at inner
    · rw [List.append_nil] at inner
      exact List.dropLast_subset segments inner
  exact (h [] isSegment).ne_nil rfl

/-- No piece of a rendered path is a dot segment. -/
theorem ne_dots_of_mem_pieces_render {piece : List Char}
    (mem : piece ∈ pieces '/' (render segments slash)) : piece ≠ ['.'] ∧ piece ≠ ['.', '.'] := by
  rw [pieces_render h, List.mem_cons, List.mem_append] at mem
  obtain rfl | mem | mem := mem
  · decide
  · exact ⟨(h piece mem).ne_dot, (h piece mem).ne_dots⟩
  · split_ifs at mem with ends
    · obtain rfl := List.mem_singleton.mp mem
      decide
    · cases mem

end Rendered

/-- Normalizing twice is normalizing once. -/
theorem normalize_normalize (path : List Char) : normalize (normalize path) = normalize path :=
  normalize_render fun _ => isSegment_of_mem_segments

end Interception.Path
