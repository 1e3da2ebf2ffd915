import Interception.Proofs.Path.Canonical

/-!
# Lookup paths are canonical

Whatever the settings and the raw path, a lookup path is one that was normalized: it begins with a
slash, has no two slashes in a row and no dot segments, and normalizing it once more changes
nothing. Decoding and the removal of parameters come before that, so that neither can bring such
segments back, and what is left of a path when its context is taken off is normalized again.

A lookup path is not always its own lookup path, because it may decode to something else, or begin
with the context once more. Where nothing is decoded and there is no context it is: the characters
that the other passes cut at do not get through the first time.
-/

namespace Interception

open Text

namespace Path

/-- A path in normal form, said of its text: rooted, with single slashes, and without dots. -/
structure IsCanonical (path : List Char) : Prop where
  rooted : startsWith '/' path = true
  single_slashes : ¬ ['/', '/'] <:+: path
  no_dots : ∀ piece ∈ pieces '/' path, piece ≠ ['.'] ∧ piece ≠ ['.', '.']

theorem isCanonical_normalize (path : List Char) : IsCanonical (normalize path) := by
  have valid : ∀ segment ∈ segments path, IsSegment segment := fun _ => isSegment_of_mem_segments
  exact ⟨rfl, not_slash_slash_infix_render valid, fun _ => ne_dots_of_mem_pieces_render valid⟩

/-! ## The characters of a normal form -/

theorem foldl_keepStep_subset (pieces kept : List (List Char)) :
    pieces.foldl keepStep kept ⊆ kept ++ pieces := by
  induction pieces generalizing kept with
  | nil => exact List.subset_append_left kept []
  | cons piece pieces ih =>
      have step : keepStep kept piece ⊆ kept ++ [piece] := by
        rw [keepStep]
        split_ifs
        · exact List.Subset.trans (List.dropLast_subset kept) (List.subset_append_left kept _)
        · exact List.Subset.refl _
      have split : kept ++ piece :: pieces = kept ++ [piece] ++ pieces := by simp
      rw [split]
      exact List.Subset.trans (ih _) (List.append_subset.mpr
        ⟨List.Subset.trans step (List.subset_append_left _ _), List.subset_append_right _ _⟩)

theorem segments_subset_pieces (path : List Char) : segments path ⊆ pieces '/' path := by
  rw [segments_eq_kept]
  exact List.Subset.trans (foldl_keepStep_subset _ []) List.filter_sublist.subset

/-- Normalizing brings in no character but slashes. -/
theorem mem_of_mem_normalize {path : List Char} {c : Char} (mem : c ∈ normalize path) :
    c = '/' ∨ c ∈ path := by
  rw [normalize, render, List.cons_append, List.mem_cons, List.mem_append] at mem
  obtain slash | mem | mem := mem
  · exact .inl slash
  · obtain slash | ⟨segment, own, hc⟩ := mem_of_mem_joined mem
    · exact .inl slash
    · exact .inr (subset_of_mem_pieces (segments_subset_pieces path own) hc)
  · split_ifs at mem
    · exact .inl (List.mem_singleton.mp mem)
    · cases mem

/-! ## Parameters -/

theorem semicolon_notMem_dropParameters (path : List Char) : ';' ∉ dropParameters path := by
  intro mem
  obtain slash | ⟨segment, own, hc⟩ := mem_of_mem_joined mem
  · cases slash
  · obtain ⟨piece, _, rfl⟩ := List.mem_map.mp own
    cases not_of_mem_before hc

theorem mem_of_mem_dropParameters {path : List Char} {c : Char} (mem : c ∈ dropParameters path) :
    c = '/' ∨ c ∈ path := by
  obtain slash | ⟨segment, own, hc⟩ := mem_of_mem_joined mem
  · exact .inl slash
  · obtain ⟨piece, isPiece, rfl⟩ := List.mem_map.mp own
    exact .inr (subset_of_mem_pieces isPiece (before_subset piece hc))

/-- A path without semicolons has no parameters to be dropped. -/
theorem dropParameters_eq_self {path : List Char} (h : ';' ∉ path) : dropParameters path = path := by
  have kept : ∀ piece ∈ pieces '/' path, before (· == ';') piece = piece := by
    intro piece mem
    refine before_of_forall_not fun c hc => ?_
    rw [beq_eq_false_iff_ne]
    rintro rfl
    exact h (subset_of_mem_pieces mem hc)
  rw [dropParameters, List.map_congr_left kept, List.map_id', joined_pieces]

end Path

namespace Lookup

open Interception.Path

/-! ## Lookup paths -/

theorem exists_lookupPath_eq_normalize (l : Lookup) (raw : List Char) :
    ∃ path, l.lookupPath raw = normalize path := by
  rw [lookupPath]
  cases l.context.bind fun context => stripContext? context (l.fullPath raw) with
  | none => exact ⟨l.plainPath raw, rfl⟩
  | some rest => exact ⟨rest, rfl⟩

/-- The same settings without a context, where nothing is decoded. -/
def undecoded (l : Lookup) : Lookup := { l with context := none, decode := false }

/-- A text that no pass before normalization changes, if nothing is decoded: it has none of the
characters at which a raw path is cut. -/
structure Passes (l : Lookup) (text : List Char) : Prop where
  no_tail : ∀ c ∈ text, (c == '?' || c == '#') = false
  no_parameters : l.removeSemicolon = true → ';' ∉ text

variable {l : Lookup}

theorem undecoded_plainPath (l : Lookup) (raw : List Char) :
    l.undecoded.plainPath raw =
      if l.removeSemicolon then dropParameters (before (fun c => c == '?' || c == '#') raw)
      else before (fun c => c == '?' || c == '#') raw := rfl

theorem plainPath_of_passes {text : List Char} (h : l.Passes text) :
    l.undecoded.plainPath text = text := by
  rw [undecoded_plainPath, before_of_forall_not h.no_tail]
  split_ifs with remove
  · exact dropParameters_eq_self (h.no_parameters remove)
  · rfl

theorem passes_plainPath (l : Lookup) (raw : List Char) : l.Passes (l.undecoded.plainPath raw) := by
  rw [undecoded_plainPath]
  constructor
  · intro c mem
    split_ifs at mem
    · obtain rfl | mem := mem_of_mem_dropParameters mem
      · rfl
      · exact not_of_mem_before (p := fun c => c == '?' || c == '#') mem
    · exact not_of_mem_before (p := fun c => c == '?' || c == '#') mem
  · intro remove
    rw [if_pos remove]
    exact semicolon_notMem_dropParameters _

theorem Passes.normalize {text : List Char} (h : l.Passes text) : l.Passes (normalize text) where
  no_tail c mem := by
    obtain rfl | mem := mem_of_mem_normalize mem
    · rfl
    · exact h.no_tail c mem
  no_parameters remove mem := by
    obtain slash | mem := mem_of_mem_normalize mem
    · cases slash
    · exact h.no_parameters remove mem

/-- Every lookup path is canonical, and normalizing it changes nothing. Without a context, and
where nothing is decoded, the lookup path of a lookup path is that path. -/
theorem lookupPath_canonical (l : Lookup) (raw : List Char) :
    IsCanonical (l.lookupPath raw) ∧
      Path.normalize (l.lookupPath raw) = l.lookupPath raw ∧
      l.undecoded.lookupPath (l.undecoded.lookupPath raw) = l.undecoded.lookupPath raw := by
  refine ⟨?_, ?_, ?_⟩
  · obtain ⟨path, own⟩ := l.exists_lookupPath_eq_normalize raw
    rw [own]
    exact isCanonical_normalize path
  · obtain ⟨path, own⟩ := l.exists_lookupPath_eq_normalize raw
    rw [own, normalize_normalize]
  · have whole : ∀ text,
        l.undecoded.lookupPath text = Path.normalize (l.undecoded.plainPath text) := fun _ => rfl
    have again := plainPath_of_passes (l.passes_plainPath raw).normalize
    rw [whole, whole, again, normalize_normalize]

/-- Parameters and escapes that hide dot segments, and a `..` above the root. -/
example : Lookup.default.lookupPath "//a/%2e%2E;p/../.;q/b//".toList = "/b/".toList := by
  decide +kernel

end Lookup

end Interception
