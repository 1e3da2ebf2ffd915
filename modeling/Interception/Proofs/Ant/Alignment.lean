import Interception.Proofs.Ant.Walk
import Mathlib.Data.List.Forall2

/-!
# Alignments of patterns with paths

What it means for a pattern to match a path, said without a search: the tokens of the path are cut
into consecutive blocks, one for each token of the pattern. A spread takes any block, every other
token a block of one text that it accepts. A token at fault accepts nothing.

The walk finds an alignment exactly if there is one. It stops at the first fault that it comes to,
but a pattern with a fault in it has no alignment that could be missed, and in a pattern without
one the walk always comes to an answer.
-/

namespace Interception.Ant

/-! ## The search behind a spread -/

section FirstTail

variable {α ε β : Type} {f : List α → Except ε (Option β)} {path : List α}

theorem exists_of_firstTail_eq_some {result : β} (h : firstTail f path = .ok (some result)) :
    ∃ skipped rest, path = skipped ++ rest ∧ f rest = .ok (some result) := by
  induction path with
  | nil => exact ⟨[], [], rfl, h⟩
  | cons x xs ih =>
      rw [firstTail] at h
      cases hx : f (x :: xs) with
      | error e =>
          rw [hx] at h
          cases h
      | ok found =>
          rw [hx] at h
          cases found with
          | some first =>
              obtain rfl : first = result := by cases h; rfl
              exact ⟨[], x :: xs, rfl, hx⟩
          | none =>
              obtain ⟨skipped, rest, rfl, hr⟩ := ih h
              exact ⟨x :: skipped, rest, rfl, hr⟩

/-- Without errors, a result that is there to be found keeps the search from coming back empty,
even if another one is found before it. -/
theorem firstTail_of_append (total : ∀ rest, ∃ found, f rest = .ok found) (skipped : List α)
    {rest : List α} {result : β} (h : f rest = .ok (some result)) :
    ∃ first, firstTail f (skipped ++ rest) = .ok (some first) := by
  induction skipped with
  | nil =>
      refine ⟨result, ?_⟩
      cases rest with
      | nil => exact h
      | cons x xs =>
          rw [List.nil_append, firstTail, h]
          rfl
  | cons x xs ih =>
      obtain ⟨found, hx⟩ := total (x :: (xs ++ rest))
      rw [List.cons_append, firstTail, hx]
      cases found with
      | some first => exact ⟨first, rfl⟩
      | none => exact ih

theorem firstTail_total (total : ∀ rest, ∃ found, f rest = .ok found) (path : List α) :
    ∃ found, firstTail f path = .ok found := by
  induction path with
  | nil => exact total []
  | cons x xs ih =>
      obtain ⟨found, hx⟩ := total (x :: xs)
      rw [firstTail, hx]
      cases found with
      | some first => exact ⟨some first, rfl⟩
      | none => exact ih

end FirstTail

/-! ## What single tokens take -/

namespace Token

variable {ignoreCase : Bool}

/-- Whether a token takes a block of texts. -/
def Takes (ignoreCase : Bool) : Token → List (List Char) → Prop
  | .spread, _ => True
  | .one compiled, block =>
    ∃ segment text, compiled = .ok segment ∧ block = [text] ∧ segment.accepts ignoreCase text = true

/-- Whether a token is not at fault. -/
def IsSound : Token → Prop
  | .spread => True
  | .one compiled => ∃ segment, compiled = .ok segment

theorem Takes.isSound {token : Token} {block : List (List Char)}
    (h : token.Takes ignoreCase block) : token.IsSound := by
  cases token with
  | spread => trivial
  | one compiled =>
      obtain ⟨segment, _, hs, _⟩ := h
      exact ⟨segment, hs⟩

theorem isSound_of_isAny {token : Token} (h : token.isAny = true) : token.IsSound := by
  cases token with
  | spread => trivial
  | one compiled =>
      cases compiled with
      | error fault => cases h
      | ok segment => exact ⟨segment, rfl⟩

end Token

/-! ## Alignments -/

/-- Whether the texts can be cut into blocks that the tokens take, one block each. -/
def Covers (ignoreCase : Bool) (tokens : List Token) (path : List (List Char)) : Prop :=
  ∃ blocks : List (List (List Char)),
    blocks.flatten = path ∧ List.Forall₂ (Token.Takes ignoreCase) tokens blocks

/-- Whether tokens and texts align. All tokens have their block, and the ends of pattern and path
agree; or a lone asterisk at the end takes the empty rest of a path that ends with a separator. -/
inductive Aligned (ignoreCase : Bool) (ending : Ending) (tokens : List Token)
    (path : List (List Char)) : Prop where
  | all (agrees : ending.agrees = true) (covers : Covers ignoreCase tokens path)
  | butLast (rest : List Token) (last : Token) (split : tokens = rest ++ [last])
      (isAny : last.isAny = true) (ends : ending.pathEnds = true)
      (covers : Covers ignoreCase rest path)

variable {ignoreCase : Bool} {ending : Ending} {token : Token} {tokens : List Token}
variable {path : List (List Char)}

@[simp] theorem covers_nil_iff : Covers ignoreCase [] path ↔ path = [] := by
  simp [Covers, eq_comm]

theorem covers_cons_iff : Covers ignoreCase (token :: tokens) path ↔
    ∃ block rest, path = block ++ rest ∧ token.Takes ignoreCase block ∧
      Covers ignoreCase tokens rest := by
  constructor
  · rintro ⟨blocks, rfl, h⟩
    obtain ⟨block, blocks, takes, others, rfl⟩ := List.forall₂_cons_left_iff.mp h
    exact ⟨block, blocks.flatten, rfl, takes, blocks, rfl, others⟩
  · rintro ⟨block, rest, rfl, takes, blocks, rfl, h⟩
    exact ⟨block :: blocks, rfl, .cons takes h⟩

theorem aligned_nil_iff : Aligned ignoreCase ending [] path ↔
    path = [] ∧ ending.agrees = true := by
  constructor
  · rintro (⟨agrees, covers⟩ | ⟨rest, last, split, _, _, _⟩)
    · exact ⟨covers_nil_iff.mp covers, agrees⟩
    · simp at split
  · rintro ⟨rfl, agrees⟩
    exact .all agrees (covers_nil_iff.mpr rfl)

/-- The first token takes a block and the others align with what is left, or there are no others
and the token is the asterisk that takes nothing. -/
theorem aligned_cons_iff : Aligned ignoreCase ending (token :: tokens) path ↔
    (∃ block rest, path = block ++ rest ∧ token.Takes ignoreCase block ∧
      Aligned ignoreCase ending tokens rest) ∨
    (tokens = [] ∧ path = [] ∧ token.isAny = true ∧ ending.pathEnds = true) := by
  constructor
  · rintro (⟨agrees, covers⟩ | ⟨front, last, split, isAny, ends, covers⟩)
    · obtain ⟨block, rest, rfl, takes, covers⟩ := covers_cons_iff.mp covers
      exact .inl ⟨block, rest, rfl, takes, .all agrees covers⟩
    · cases front with
      | nil =>
          obtain ⟨rfl, rfl⟩ := List.cons.inj split
          exact .inr ⟨rfl, covers_nil_iff.mp covers, isAny, ends⟩
      | cons first front =>
          obtain ⟨rfl, rfl⟩ := List.cons.inj split
          obtain ⟨block, rest, rfl, takes, covers⟩ := covers_cons_iff.mp covers
          exact .inl ⟨block, rest, rfl, takes, .butLast front last rfl isAny ends covers⟩
  · rintro (⟨block, rest, rfl, takes, h⟩ | ⟨rfl, rfl, isAny, ends⟩)
    · cases h with
      | all agrees covers => exact .all agrees (covers_cons_iff.mpr ⟨_, _, rfl, takes, covers⟩)
      | butLast front last split isAny ends covers =>
          subst split
          exact .butLast (token :: front) last rfl isAny ends
            (covers_cons_iff.mpr ⟨_, _, rfl, takes, covers⟩)
    · exact .butLast [] token rfl isAny ends (covers_nil_iff.mpr rfl)

/-- Tokens that align with something have no fault among them. -/
theorem Aligned.isSound (h : Aligned ignoreCase ending tokens path) :
    ∀ token ∈ tokens, token.IsSound := by
  induction tokens generalizing path with
  | nil => simp
  | cons token tokens ih =>
      rcases aligned_cons_iff.mp h with ⟨block, rest, _, takes, h⟩ | ⟨rfl, _, isAny, _⟩
      · exact List.forall_mem_cons.mpr ⟨takes.isSound, ih h⟩
      · simpa using Token.isSound_of_isAny isAny

/-! ## The walk finds the alignments -/

theorem walk_nil_eq_some_iff : (∃ captures, walk ignoreCase ending [] path = .ok (some captures)) ↔
    path = [] ∧ ending.agrees = true := by
  cases path <;> simp [walk]

theorem walk_spread : walk ignoreCase ending (.spread :: tokens) path =
    firstTail (walk ignoreCase ending tokens) path := by
  rw [walk]

theorem walk_one_nil_eq_some_iff {compiled : Except Fault Segment} :
    (∃ captures, walk ignoreCase ending (.one compiled :: tokens) [] = .ok (some captures)) ↔
      tokens = [] ∧ (Token.one compiled).isAny = true ∧ ending.pathEnds = true := by
  simp [walk, and_assoc]

theorem walk_one_cons {segment : Segment} {text : List Char} :
    walk ignoreCase ending (.one (.ok segment) :: tokens) (text :: path) =
      match segment.capture? ignoreCase text with
      | none => .ok none
      | some captures => (walk ignoreCase ending tokens path).map (·.map (captures ++ ·)) := by
  rw [walk]
  change (match segment.capture? ignoreCase text with
    | none => _
    | some captures => _) = _
  cases segment.capture? ignoreCase text with
  | none => rfl
  | some captures => cases walk ignoreCase ending tokens path <;> rfl

/-- A walk over sound tokens comes to an answer. -/
theorem walk_total (sound : ∀ token ∈ tokens, token.IsSound) (path : List (List Char)) :
    ∃ found, walk ignoreCase ending tokens path = .ok found := by
  induction tokens generalizing path with
  | nil => cases path <;> exact ⟨_, rfl⟩
  | cons token tokens ih =>
      obtain ⟨head, tail⟩ := List.forall_mem_cons.mp sound
      cases token with
      | spread =>
          rw [walk_spread]
          exact firstTail_total (ih tail) path
      | one compiled =>
          obtain ⟨segment, rfl⟩ := head
          cases path with
          | nil => exact ⟨_, rfl⟩
          | cons text path =>
              obtain ⟨found, hw⟩ := ih tail path
              rw [walk_one_cons, hw]
              cases segment.capture? ignoreCase text <;> exact ⟨_, rfl⟩

/-- What the walk finds is an alignment. -/
theorem aligned_of_walk
    (h : ∃ captures, walk ignoreCase ending tokens path = .ok (some captures)) :
    Aligned ignoreCase ending tokens path := by
  induction tokens generalizing path with
  | nil => exact aligned_nil_iff.mpr (walk_nil_eq_some_iff.mp h)
  | cons token tokens ih =>
      refine aligned_cons_iff.mpr ?_
      cases token with
      | spread =>
          obtain ⟨captures, h⟩ := h
          rw [walk_spread] at h
          obtain ⟨skipped, rest, rfl, found⟩ := exists_of_firstTail_eq_some h
          exact .inl ⟨skipped, rest, rfl, trivial, ih ⟨captures, found⟩⟩
      | one compiled =>
          cases path with
          | nil =>
              obtain ⟨rfl, isAny, ends⟩ := walk_one_nil_eq_some_iff.mp h
              exact .inr ⟨rfl, rfl, isAny, ends⟩
          | cons text path =>
              obtain ⟨captures, h⟩ := h
              cases compiled with
              | error fault => cases h
              | ok segment =>
                  rw [walk_one_cons] at h
                  cases hc : segment.capture? ignoreCase text with
                  | none => simp [hc] at h
                  | some first =>
                      have accepts : segment.accepts ignoreCase text = true := by
                        simp [Segment.accepts, hc]
                      cases hw : walk ignoreCase ending tokens path with
                      | error fault => simp [hc, hw, Except.map] at h
                      | ok found =>
                          cases found with
                          | none => simp [hc, hw, Except.map] at h
                          | some others =>
                              exact .inl ⟨[text], path, rfl, ⟨segment, text, rfl, rfl, accepts⟩,
                                ih ⟨others, hw⟩⟩

/-- Where there is an alignment the walk finds one. No fault keeps it from that, because tokens
that align are sound. -/
theorem walk_of_aligned (h : Aligned ignoreCase ending tokens path) :
    ∃ captures, walk ignoreCase ending tokens path = .ok (some captures) := by
  induction tokens generalizing path with
  | nil => exact walk_nil_eq_some_iff.mpr (aligned_nil_iff.mp h)
  | cons token tokens ih =>
      have sound := (List.forall_mem_cons.mp h.isSound).2
      rcases aligned_cons_iff.mp h with ⟨block, rest, rfl, takes, h⟩ | ⟨rfl, rfl, isAny, ends⟩
      · obtain ⟨captures, hw⟩ := ih h
        cases token with
        | spread =>
            rw [walk_spread]
            exact firstTail_of_append (walk_total sound) block hw
        | one compiled =>
            obtain ⟨segment, text, rfl, rfl, accepts⟩ := takes
            obtain ⟨first, hc⟩ := Option.isSome_iff_exists.mp accepts
            refine ⟨first ++ captures, ?_⟩
            rw [List.singleton_append, walk_one_cons, hc, hw]
            rfl
      · cases token with
        | spread => cases isAny
        | one compiled => exact walk_one_nil_eq_some_iff.mpr ⟨rfl, isAny, ends⟩

theorem walk_eq_some_iff :
    (∃ captures, walk ignoreCase ending tokens path = .ok (some captures)) ↔
      Aligned ignoreCase ending tokens path :=
  ⟨aligned_of_walk, walk_of_aligned⟩

end Interception.Ant

namespace Interception.AntMatcher

open Ant

/-! ## What a pattern matches -/

variable {m : AntMatcher}

/-- Whether a token for one segment, taken alone, accepts a text. One at fault accepts none. -/
def Accepts (m : AntMatcher) (token text : List Char) : Prop :=
  ∃ segment, m.compile token = .ok segment ∧ segment.accepts (!m.caseSensitive) text = true

/-- The blocks of texts that a token of a pattern can get: `**` any block, another token one text
that it accepts. -/
def Takes (m : AntMatcher) (token : List Char) (block : List (List Char)) : Prop :=
  token = spreadToken ∨ ∃ text, block = [text] ∧ m.Accepts token text

/-- Whether the texts can be cut into consecutive blocks, one for each token in order. -/
def Cuts (m : AntMatcher) (tokens path : List (List Char)) : Prop :=
  ∃ blocks : List (List (List Char)), blocks.flatten = path ∧ List.Forall₂ m.Takes tokens blocks

/-- What it means that a pattern matches a path. Both or neither begin with the separator, and
either every token has its block, where without `**` both or neither have to end with the
separator, or all tokens but a lone asterisk at the end have theirs and the path ends with the
separator. -/
def Matches (m : AntMatcher) (pattern path : List Char) : Prop :=
  Text.startsWith m.separator pattern = Text.startsWith m.separator path ∧
    ((m.Cuts (m.tokens pattern) (m.tokens path) ∧
      (spreadToken ∈ m.tokens pattern ∨
        Text.endsWith m.separator pattern = Text.endsWith m.separator path)) ∨
    ∃ tokens, m.tokens pattern = tokens ++ [['*']] ∧ m.Cuts tokens (m.tokens path) ∧
      Text.endsWith m.separator path = true)

theorem isAny_ofText_iff {token : List Char} :
    (Token.ofText m.compile token).isAny = true ↔ token = ['*'] := by
  rw [Token.ofText]
  split_ifs with spread
  · simp [spread, spreadToken, Token.isAny]
  · exact isAny_one_iff.trans compile_eq_any_iff

theorem takes_ofText_iff {token : List Char} {block : List (List Char)} :
    (Token.ofText m.compile token).Takes (!m.caseSensitive) block ↔ m.Takes token block := by
  rw [Token.ofText]
  split_ifs with spread
  · exact ⟨fun _ => .inl spread, fun _ => trivial⟩
  · constructor
    · rintro ⟨segment, text, compiled, rfl, accepts⟩
      exact .inr ⟨text, rfl, segment, compiled, accepts⟩
    · rintro (isSpread | ⟨text, rfl, segment, compiled, accepts⟩)
      · exact absurd isSpread spread
      · exact ⟨segment, text, compiled, rfl, accepts⟩

theorem covers_ofText_iff {tokens path : List (List Char)} :
    Covers (!m.caseSensitive) (tokens.map (Token.ofText m.compile)) path ↔ m.Cuts tokens path := by
  simp only [Covers, Cuts, List.forall₂_map_left_iff, takes_ofText_iff]

theorem cuts_cons_iff {token : List Char} {tokens path : List (List Char)} :
    m.Cuts (token :: tokens) path ↔
      ∃ block rest, path = block ++ rest ∧ m.Takes token block ∧ m.Cuts tokens rest := by
  rw [← covers_ofText_iff, List.map_cons, covers_cons_iff]
  simp only [takes_ofText_iff, covers_ofText_iff]

theorem agrees_ending_iff {pattern path : List Char} : (m.ending pattern path).agrees = true ↔
    spreadToken ∈ m.tokens pattern ∨
      Text.endsWith m.separator pattern = Text.endsWith m.separator path := by
  simp [ending, Ending.agrees]

theorem aligned_ofText_iff {pattern path : List Char} :
    Aligned (!m.caseSensitive) (m.ending pattern path)
        ((m.tokens pattern).map (Token.ofText m.compile)) (m.tokens path) ↔
      (m.Cuts (m.tokens pattern) (m.tokens path) ∧
        (spreadToken ∈ m.tokens pattern ∨
          Text.endsWith m.separator pattern = Text.endsWith m.separator path)) ∨
      ∃ tokens, m.tokens pattern = tokens ++ [['*']] ∧ m.Cuts tokens (m.tokens path) ∧
        Text.endsWith m.separator path = true := by
  constructor
  · rintro (⟨agrees, covers⟩ | ⟨rest, last, split, isAny, ends, covers⟩)
    · exact .inl ⟨covers_ofText_iff.mp covers, agrees_ending_iff.mp agrees⟩
    · obtain ⟨tokens, lasts, h, rfl, hl⟩ := List.map_eq_append_iff.mp split
      obtain ⟨star, rfl, rfl⟩ := List.map_eq_singleton_iff.mp hl
      obtain rfl := isAny_ofText_iff.mp isAny
      exact .inr ⟨tokens, h, covers_ofText_iff.mp covers, ends⟩
  · rintro (⟨cuts, agrees⟩ | ⟨tokens, h, cuts, ends⟩)
    · exact .all (agrees_ending_iff.mpr agrees) (covers_ofText_iff.mpr cuts)
    · refine .butLast _ (Token.ofText m.compile ['*']) ?_ (isAny_ofText_iff.mpr rfl) ends
        (covers_ofText_iff.mpr cuts)
      rw [h, List.map_append, List.map_singleton]

/-- There is something to capture exactly where the pattern matches in the sense of `Matches`. -/
theorem exists_capture_iff {pattern path : List Char} :
    (∃ captures, m.capture pattern path = .ok (some captures)) ↔ m.Matches pattern path := by
  by_cases h : Text.startsWith m.separator pattern = Text.startsWith m.separator path
  · rw [capture_eq_walk h, walk_eq_some_iff, aligned_ofText_iff]
    exact ⟨fun aligned => ⟨h, aligned⟩, fun matched => matched.2⟩
  · rw [capture_of_startsWith_ne h]
    exact ⟨fun found => by simp at found, fun matched => absurd matched.1 h⟩

/-- The matcher answers yes exactly where the pattern matches in the sense of `Matches`. The
search, its order and the faults that it may come to on the way do not show in this answer. -/
theorem isMatch_eq_true_iff (m : AntMatcher) (pattern path : List Char) :
    m.isMatch pattern path = .ok true ↔ m.Matches pattern path :=
  isMatch_eq_true_iff_capture.trans exists_capture_iff

/-- A pattern without a fault is never found at fault. -/
theorem isMatch_total {pattern : List Char}
    (sound : ∀ token ∈ m.tokens pattern, (Token.ofText m.compile token).IsSound)
    (path : List Char) : ∃ answer, m.isMatch pattern path = .ok answer := by
  have total : ∃ found, m.capture pattern path = .ok found := by
    by_cases h : Text.startsWith m.separator pattern = Text.startsWith m.separator path
    · rw [capture_eq_walk h]
      exact walk_total (List.forall_mem_map.mpr sound) _
    · exact ⟨none, capture_of_startsWith_ne h⟩
  obtain ⟨found, captured⟩ := total
  exact ⟨found.isSome, isMatch_of_capture captured⟩

end Interception.AntMatcher
