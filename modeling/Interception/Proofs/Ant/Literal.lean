import Interception.Proofs.Ant.Replacement
import Interception.Proofs.Ant.Subtree
import Interception.Proofs.Path.Stability

/-!
# Texts that are not patterns

A text that has none of the signs of a pattern stands for itself. Its tokens are all literal, so
that there is nothing in it to be at fault, and every token takes itself. Among lookup paths it
matches itself only: such a path is known from its segments and from whether it ends with a slash,
and both are compared.
-/

namespace Interception.AntMatcher

open Ant Interception.Path

variable {m : AntMatcher} {token text other : List Char} {tokens path : List (List Char)}

/-! ## Literal tokens -/

theorem isTemplate_eq_false_of_subset (h : isTemplate text = false) (sub : token ⊆ text) :
    isTemplate token = false := by
  rw [isTemplate, List.any_eq_false] at h ⊢
  intro c mem
  exact h c (sub mem)

theorem infix_of_mem_tokens (mem : token ∈ m.tokens text) : token <:+: text := by
  obtain ⟨made, _⟩ := List.mem_filter.mp mem
  obtain ⟨piece, isPiece, own⟩ := List.mem_map.mp made
  have isToken : m.tokenOf piece = token := own
  rw [← isToken]
  exact List.IsInfix.trans ( tokenOf_infix piece) (Text.infix_of_mem_pieces isPiece)

theorem forall_tokens_not_isTemplate (h : isTemplate text = false) :
    ∀ token ∈ m.tokens text, isTemplate token = false := by
  intro token mem
  exact isTemplate_eq_false_of_subset h (infix_of_mem_tokens mem).subset

/-! ## Literal patterns -/

/-- A text without signs is never at fault, whatever the path. -/
theorem isMatch_total_of_not_isTemplate (h : isTemplate text = false) (path : List Char) :
    ∃ answer, m.isMatch text path = .ok answer := by
  apply isMatch_total
  intro token mem
  have literal := forall_tokens_not_isTemplate h token mem
  rw [Token.ofText, if_neg (ne_spread_of_not_isTemplate literal)]
  exact ⟨_, compile_of_not_isTemplate literal⟩

theorem cuts_self (h : ∀ token ∈ tokens, isTemplate token = false) : m.Cuts tokens tokens := by
  induction tokens with
  | nil => exact ⟨[], rfl, .nil⟩
  | cons token tokens ih =>
      obtain ⟨own, others⟩ := List.forall_mem_cons.mp h
      rw [cuts_cons_iff]
      exact ⟨[token], tokens, rfl, .inr ⟨token, rfl, accepts_self own⟩, ih others⟩

theorem matches_self (h : isTemplate text = false) : m.Matches text text :=
  ⟨rfl, .inl ⟨cuts_self (forall_tokens_not_isTemplate h), .inr rfl⟩⟩

theorem cuts_default_iff (h : ∀ token ∈ tokens, isTemplate token = false) :
    default.Cuts tokens path ↔ tokens = path := by
  constructor
  · intro cuts
    induction tokens generalizing path with
    | nil =>
        obtain ⟨blocks, rfl, aligned⟩ := cuts
        cases aligned
        rfl
    | cons token tokens ih =>
        obtain ⟨own, others⟩ := List.forall_mem_cons.mp h
        obtain ⟨block, rest, rfl, takes, further⟩ := cuts_cons_iff.mp cuts
        obtain isSpread | ⟨text, rfl, accepts⟩ := takes
        · exact absurd isSpread (ne_spread_of_not_isTemplate own)
        · rw [(accepts_default_iff own).mp accepts, ih others further]
          rfl
  · rintro rfl
    exact cuts_self h

/-- What a text without signs matches: the texts with the same tokens that begin and end with a
separator if it does. -/
theorem matches_default_iff (h : isTemplate text = false) :
    default.Matches text other ↔
      Text.startsWith '/' text = Text.startsWith '/' other ∧
        standing text = standing other ∧ Text.endsWith '/' text = Text.endsWith '/' other := by
  have literal := forall_tokens_not_isTemplate (m := default) h
  have noSpread : spreadToken ∉ default.tokens text :=
    fun mem => ne_spread_of_not_isTemplate (literal _ mem) rfl
  have noStar : ∀ front, default.tokens text ≠ front ++ [['*']] := by
    intro front split
    exact ne_star_of_not_isTemplate (literal ['*'] (split ▸ List.mem_concat_self)) rfl
  rw [Matches, cuts_default_iff literal]
  constructor
  · rintro ⟨starts, ⟨same, isSpread | ends⟩ | ⟨front, split, _, _⟩⟩
    · exact absurd isSpread noSpread
    · rw [tokens_default, tokens_default] at same
      exact ⟨starts, same, ends⟩
    · exact absurd split (noStar front)
  · rintro ⟨starts, same, ends⟩
    rw [tokens_default, tokens_default]
    exact ⟨starts, .inl ⟨same, .inr ends⟩⟩

/-! ## Lookup paths -/

/-- Whether the text is the lookup path of some raw path under some settings. -/
def IsLookupPath (text : List Char) : Prop := ∃ l : Lookup, ∃ raw, l.lookupPath raw = text

/-- A path in normal form is known from its segments and its end. -/
theorem normalize_injective {left right : List Char}
    (same : standing (normalize left) = standing (normalize right))
    (ends : Text.endsWith '/' (normalize left) = Text.endsWith '/' (normalize right)) :
    normalize left = normalize right := by
  have valid : ∀ raw, ∀ segment ∈ segments raw, IsSegment segment :=
    fun _ _ => isSegment_of_mem_segments
  have found : ∀ raw, standing (normalize raw) = segments raw :=
    fun raw => standing_render (fun segment mem => (valid raw segment mem).stands) _
  rw [found, found] at same
  rw [Path.normalize, Path.normalize, endsWith_render (valid left), endsWith_render (valid right),
    same] at ends
  rw [Path.normalize, Path.normalize, render, render, same]
  -- The final slash counts only where there are segments, and there it is seen from the end.
  cases h : (segments right).isEmpty with
  | true => rfl
  | false =>
      rw [h, Bool.false_or, Bool.false_or] at ends
      rw [ends]

theorem IsLookupPath.eq_of_matches (isTemplate : isTemplate text = false)
    (own : IsLookupPath text) (others : IsLookupPath other) (h : default.Matches text other) :
    text = other := by
  obtain ⟨l, raw, rfl⟩ := own
  obtain ⟨l', raw', rfl⟩ := others
  obtain ⟨left, isLeft⟩ := l.exists_lookupPath_eq_normalize raw
  obtain ⟨right, isRight⟩ := l'.exists_lookupPath_eq_normalize raw'
  obtain ⟨_, same, ends⟩ := (matches_default_iff isTemplate).mp h
  rw [isLeft, isRight] at same ends ⊢
  exact normalize_injective same ends

/-- Of a text that is not a pattern the matcher always has an answer, under any settings, and the
text matches itself. Where paths are compared as they are, a lookup path that is not a pattern
matches itself and no other lookup path. -/
theorem isMatch_of_not_isPattern (m : AntMatcher) (text : String)
    (literal : m.toPathMatcher.isPattern text = false) :
    (∀ path, ∃ answer, m.toPathMatcher.isMatch text path = .ok answer) ∧
      m.toPathMatcher.isMatch text text = .ok true ∧
      ∀ path : String, IsLookupPath text.toList → IsLookupPath path.toList →
        (default.toPathMatcher.isMatch text path = .ok true ↔ text = path) := by
  have literal : isTemplate text.toList = false := literal
  refine ⟨?_, ?_, ?_⟩
  · intro path
    exact isMatch_total_of_not_isTemplate literal path.toList
  · show m.isMatch text.toList text.toList = .ok true
    rw [isMatch_eq_true_iff_capture, exists_capture_iff]
    exact matches_self literal
  · intro path own others
    show default.isMatch text.toList path.toList = .ok true ↔ text = path
    rw [isMatch_eq_true_iff_capture, exists_capture_iff]
    constructor
    · intro matched
      exact String.toList_inj.mp (own.eq_of_matches literal others matched)
    · rintro rfl
      exact matches_self literal

/-- Settings without regard to case and with tokens trimmed. -/
def lenient : AntMatcher := { AntMatcher.default with caseSensitive := false, trimTokens := true }

/-- `/a/B` is looked up for `//a/./B?q`, is matched by itself, under these settings without regard
to case, and does not match the lookup path `/a/B/`. -/
theorem isMatch_of_not_isPattern_slash :
    (∃ answer, lenient.toPathMatcher.isMatch "/a/B" "/{A}/" = .ok answer) ∧
      lenient.toPathMatcher.isMatch "/a/B" "/a/B" = .ok true ∧
      default.toPathMatcher.isMatch "/a/B" "/a/B/" ≠ .ok true := by
  have own : IsLookupPath "/a/B".toList := ⟨.default, "//a/./B?q".toList, by decide +kernel⟩
  have other : IsLookupPath "/a/B/".toList := ⟨.default, "/a/B//".toList, by decide +kernel⟩
  obtain ⟨total, self, only⟩ := isMatch_of_not_isPattern lenient "/a/B" (by decide)
  refine ⟨total _, self, ?_⟩
  rw [Ne, only "/a/B/" own other]
  decide

end Interception.AntMatcher
