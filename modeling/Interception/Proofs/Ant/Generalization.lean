import Interception.Proofs.Ant.Replacement

/-!
# Wildcards in place of tokens

A pattern matches no fewer paths when one of its tokens becomes a lone asterisk, or a spread. Both
take whatever the token has taken, and what else there is to a match, the ends of pattern and path
and the asterisk at the end that takes nothing, is not lost either. The other tokens of a pattern
that matches are sound, so that the wildcard cannot bring the walk to a fault.

All of this is said of alignments. That the replacement makes another search, with other alignments
found first, plays no part.
-/

namespace Interception.AntMatcher

open Ant

variable {m : AntMatcher} {slot : Slot} {token other : List Char} {path : List Char}
variable {front back texts : List (List Char)}

/-! ## More general tokens -/

/-- A token may stand for another one without a match being lost: it takes what that one takes, it
is a spread if that one is, and it may take nothing at the end of a pattern if that one may. -/
structure Generalizes (m : AntMatcher) (other token : List Char) : Prop where
  takes : ∀ block, m.Takes token block → m.Takes other block
  spread : token = spreadToken → other = spreadToken
  last : token = ['*'] → other = ['*'] ∨ other = spreadToken

theorem accepts_star (text : List Char) : m.Accepts ['*'] text :=
  ⟨.any, compile_eq_any_iff.mpr rfl, rfl⟩

theorem generalizes_star (notSpread : token ≠ spreadToken) : m.Generalizes ['*'] token where
  takes := by
    rintro block (isSpread | ⟨text, rfl, _⟩)
    · exact absurd isSpread notSpread
    · exact .inr ⟨text, rfl, accepts_star text⟩
  spread isSpread := absurd isSpread notSpread
  last _ := .inl rfl

theorem generalizes_spread (token : List Char) : m.Generalizes spreadToken token where
  takes _ _ := .inl rfl
  spread _ := rfl
  last _ := .inr rfl

/-- Tokens in two parts cut the texts in two parts. -/
theorem cuts_append_iff : m.Cuts (front ++ back) texts ↔
    ∃ left right, texts = left ++ right ∧ m.Cuts front left ∧ m.Cuts back right := by
  constructor
  · intro h
    induction front generalizing texts with
    | nil => exact ⟨[], texts, rfl, ⟨[], rfl, .nil⟩, h⟩
    | cons first front ih =>
        obtain ⟨block, rest, rfl, own, others⟩ := cuts_cons_iff.mp h
        obtain ⟨left, right, rfl, inFront, behind⟩ := ih others
        exact ⟨block ++ left, right, (List.append_assoc _ _ _).symm,
          cuts_cons_iff.mpr ⟨block, left, rfl, own, inFront⟩, behind⟩
  · rintro ⟨_, _, rfl, ⟨blocks, rfl, inFront⟩, ⟨blocks', rfl, behind⟩⟩
    exact ⟨blocks ++ blocks', List.flatten_append, List.rel_append inFront behind⟩

theorem Cuts.replace (h : m.Cuts (front ++ token :: back) texts)
    (takes : ∀ block, m.Takes token block → m.Takes other block) :
    m.Cuts (front ++ other :: back) texts := by
  obtain ⟨left, right, rfl, inFront, behind⟩ := cuts_append_iff.mp h
  obtain ⟨block, rest, rfl, own, others⟩ := cuts_cons_iff.mp behind
  exact cuts_append_iff.mpr
    ⟨left, _, rfl, inFront, cuts_cons_iff.mpr ⟨block, rest, rfl, takes block own, others⟩⟩

/-- A spread at the end may take nothing. -/
theorem Cuts.concat_spread (h : m.Cuts front texts) : m.Cuts (front ++ [spreadToken]) texts := by
  have nothing : m.Cuts [spreadToken] [] := ⟨[[]], rfl, .cons (.inl rfl) .nil⟩
  exact cuts_append_iff.mpr ⟨texts, [], (List.append_nil texts).symm, h, nothing⟩

theorem Generalizes.spread_mem (h : m.Generalizes other token)
    (mem : spreadToken ∈ front ++ token :: back) : spreadToken ∈ front ++ other :: back := by
  simp only [List.mem_append, List.mem_cons] at mem ⊢
  exact mem.imp_right (Or.imp_left fun own => (h.spread own.symm).symm)

/-! ## Patterns -/

/-- A path that is matched stays so when a token of the pattern becomes a more general one. -/
theorem Matches.put (h : m.Holds slot token) (h' : m.Holds slot other)
    (general : m.Generalizes other token) (matched : m.Matches (m.put slot token) path) :
    m.Matches (m.put slot other) path := by
  obtain ⟨starts, aligned⟩ := matched
  refine ⟨(h.startsWith_put_eq h').symm.trans starts, ?_⟩
  rw [h.tokens_put, h.endsWith_put_eq h'] at aligned
  rw [h'.tokens_put]
  obtain ⟨cuts, ends⟩ | ⟨tokens, split, cuts, ends⟩ := aligned
  · exact .inl ⟨cuts.replace general.takes, ends.imp_left general.spread_mem⟩
  · -- Either the token is the asterisk at the end itself, or that one stands behind it.
    obtain none | ⟨rest, last, some⟩ := (m.tokensOf slot.after).eq_nil_or_concat
    · rw [none] at split ⊢
      obtain ⟨rfl, same⟩ := List.append_inj' split rfl
      obtain rfl | rfl := general.last (List.cons.inj same).1
      · exact .inr ⟨_, rfl, cuts, ends⟩
      · exact .inl ⟨cuts.concat_spread, .inl (List.mem_append_right _ List.mem_cons_self)⟩
    · rw [some, List.concat_eq_append, ← List.cons_append, ← List.append_assoc] at split ⊢
      obtain ⟨rfl, same⟩ := List.append_inj' split rfl
      rw [same]
      exact .inr ⟨_, rfl, cuts.replace general.takes, ends⟩

theorem Holds.wildcard (h : m.Holds slot token) (free : m.separator ≠ '*')
    {wildcard : List Char} (isWildcard : wildcard = ['*'] ∨ wildcard = spreadToken) :
    m.Holds slot wildcard := by
  have solid : Text.IsSolid ['*'] ∧ Text.IsSolid spreadToken := by
    have blank : Unicode.Property.whiteSpace.contains '*' = false := by decide
    simp [Text.IsSolid, spreadToken, blank]
  obtain rfl | rfl := isWildcard
  · exact h.replace (List.cons_ne_nil _ _) solid.1 (by simpa using free)
  · exact h.replace (List.cons_ne_nil _ _) solid.2 (by simpa [spreadToken] using free)

/-- A pattern that matches a path still does so when a token of it, other than a spread, becomes a
lone asterisk, and when any token of it becomes a spread. Every token of the pattern stands in a slot
where it can be replaced. The separator is none of the signs that wildcards are written with. -/
theorem isMatch_put_wildcard (free : m.separator ≠ '*')
    (matched : m.isMatch pattern path = .ok true) :
    (∀ token ∈ m.tokens pattern, ∃ slot, m.Holds slot token ∧ m.put slot token = pattern) ∧
    ∀ slot token, m.Holds slot token → m.put slot token = pattern →
      (token ≠ spreadToken → m.isMatch (m.put slot ['*']) path = .ok true) ∧
        m.isMatch (m.put slot spreadToken) path = .ok true := by
  rw [isMatch_eq_true_iff] at matched
  refine ⟨fun token mem => exists_slot_of_mem_tokens mem, ?_⟩
  rintro slot token h rfl
  constructor
  · intro notSpread
    rw [isMatch_eq_true_iff]
    exact matched.put h (h.wildcard free (.inl rfl)) (generalizes_star notSpread)
  · rw [isMatch_eq_true_iff]
    exact matched.put h (h.wildcard free (.inr rfl)) (generalizes_spread token)

/-- The pattern `/a/{v:b+}/*` matches `/a/bb/` because of its end, where the asterisk takes nothing,
and so do `/a/*/*` and `/a/**/*`. -/
theorem isMatch_put_wildcard_inner :
    AntMatcher.default.isMatch "/a/*/*".toList "/a/bb/".toList = .ok true ∧
      AntMatcher.default.isMatch "/a/**/*".toList "/a/bb/".toList = .ok true := by
  have holds : AntMatcher.default.Holds ⟨[[], ['a']], [], [], [['*']]⟩ "{v:b+}".toList :=
    ⟨by decide, by decide, by decide⟩
  have matched : AntMatcher.default.isMatch "/a/{v:b+}/*".toList "/a/bb/".toList = .ok true := by
    decide +kernel
  have both := (isMatch_put_wildcard (by decide) matched).2 _ _ holds rfl
  exact ⟨both.1 (by decide), both.2⟩

/-- A matcher without wildcards, because the asterisk is its separator. -/
def starSeparated : AntMatcher := { AntMatcher.default with separator := '*' }

/-- An asterisk that takes the place of the only token of a pattern is a separator here, and the
path does not begin with one. -/
theorem not_isMatch_put_separator :
    starSeparated.Holds ⟨[], [], [], []⟩ ['a'] ∧ ['a'] ≠ spreadToken ∧
      starSeparated.isMatch (starSeparated.put ⟨[], [], [], []⟩ ['a']) ['a'] = .ok true ∧
      starSeparated.isMatch (starSeparated.put ⟨[], [], [], []⟩ ['*']) ['a'] = .ok false ∧
      starSeparated.isMatch (starSeparated.put ⟨[], [], [], []⟩ spreadToken) ['a'] = .ok false := by
  refine ⟨⟨by decide, by decide, by decide⟩, by decide, ?_, ?_, ?_⟩ <;> decide +kernel

end Interception.AntMatcher
