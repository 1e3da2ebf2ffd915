import Interception.Proofs.Ant.RoundTrip

/-!
# Replacing a token of a pattern

A token of a pattern stands in a slot: there are other tokens before it and after it, and blanks
around it if tokens are trimmed. Another token may be put into the same slot. Where both tokens
accept the same texts of a path, the pattern matches the path with the one as it does with the
other, unless one of them is the lone asterisk at the end that takes nothing.

A lone asterisk and a variable without a constraint are not the same in this sense: the asterisk
accepts every text, and the variable no text with a line feed.
-/

namespace Interception.Ant

/-! ## Tokens that accept the same texts -/

section FirstTail

variable {α β γ ε : Type} {f : List α → Except ε (Option β)} {g : List α → Except ε (Option γ)}

/-- Two searches that agree on every tail agree, if it does not matter what they find. -/
theorem map_isSome_firstTail {path : List α}
    (h : ∀ rest, rest <:+ path → (f rest).map Option.isSome = (g rest).map Option.isSome) :
    (firstTail f path).map Option.isSome = (firstTail g path).map Option.isSome := by
  induction path with
  | nil => exact h [] List.suffix_rfl
  | cons x xs ih =>
      have here := h (x :: xs) List.suffix_rfl
      have later := ih fun rest isEnd => h rest (isEnd.trans (List.suffix_cons x xs))
      rw [firstTail, firstTail]
      rcases first : f (x :: xs) with e | _ | found <;>
        rcases other : g (x :: xs) with e' | _ | found' <;> rw [first, other] at here <;> cases here
      · rfl
      · exact later
      · rfl

end FirstTail

variable {ignoreCase : Bool} {ending : Ending} {front back : List Token} {segment other : Segment}
variable {path : List (List Char)}

theorem map_isSome_walk_one_cons (segment : Segment) (text : List Char) (tokens : List Token)
    (path : List (List Char)) :
    (walk ignoreCase ending (.one (.ok segment) :: tokens) (text :: path)).map Option.isSome =
      if segment.accepts ignoreCase text then
        (walk ignoreCase ending tokens path).map Option.isSome
      else .ok false := by
  rw [walk_one_cons, Segment.accepts]
  cases segment.capture? ignoreCase text with
  | none => rfl
  | some own => rcases walk ignoreCase ending tokens path with fault | _ | others <;> rfl

/-- Where two tokens accept the same texts it makes no difference which of them a walk comes to. At
the end of the tokens there may be no text left for either. -/
theorem map_isSome_walk_replace
    (same : ∀ text ∈ path, segment.accepts ignoreCase text = other.accepts ignoreCase text)
    (inner : back ≠ [] ∨ ending.pathEnds = false) :
    (walk ignoreCase ending (front ++ .one (.ok segment) :: back) path).map Option.isSome =
      (walk ignoreCase ending (front ++ .one (.ok other) :: back) path).map Option.isSome := by
  induction front generalizing path with
  | nil =>
      cases path with
      | nil =>
          simp only [List.nil_append, walk]
          obtain ne | ends := inner
          · rw [List.isEmpty_eq_false_iff.mpr ne]
            rfl
          · simp only [ends, Bool.and_false]
      | cons text path =>
          rw [List.nil_append, List.nil_append, map_isSome_walk_one_cons, map_isSome_walk_one_cons,
            same text List.mem_cons_self]
  | cons token front ih =>
      rw [List.cons_append, List.cons_append]
      cases token with
      | spread =>
          rw [walk_spread, walk_spread]
          refine map_isSome_firstTail fun rest isEnd => ih fun text mem => ?_
          exact same text (isEnd.subset mem)
      | one compiled =>
          cases path with
          | nil => simp [walk]
          | cons text path =>
              cases compiled with
              | error fault => rfl
              | ok first =>
                  rw [map_isSome_walk_one_cons, map_isSome_walk_one_cons,
                    ih fun text mem => same text (List.mem_cons_of_mem _ mem)]

/-! ## Slots -/

/-- A place in a pattern at which a token may stand: the pieces between separators before it and
after it, and what is on both sides of it in its own piece. -/
structure Slot where
  before : List (List Char)
  left : List Char
  right : List Char
  after : List (List Char)

/-- The pieces between separators when a token stands in the slot. -/
def Slot.pieces (slot : Slot) (token : List Char) : List (List Char) :=
  slot.before ++ (slot.left ++ token ++ slot.right) :: slot.after

end Interception.Ant

namespace Interception.AntMatcher

open Ant

variable {m : AntMatcher} {slot : Slot} {token other pattern path : List Char}

/-- A piece between separators as a token. -/
def tokenOf (m : AntMatcher) (piece : List Char) : List Char :=
  if m.trimTokens then Text.trim piece else piece

/-- The tokens that pieces between separators make. -/
def tokensOf (m : AntMatcher) (pieces : List (List Char)) : List (List Char) :=
  (pieces.map m.tokenOf).filter (!·.isEmpty)

/-- The pattern with a token in a slot. -/
def put (m : AntMatcher) (slot : Slot) (token : List Char) : List Char :=
  Text.joined m.separator (slot.pieces token)

/-- The token stands in the slot as a token of its own. -/
structure Holds (m : AntMatcher) (slot : Slot) (token : List Char) : Prop where
  ne_nil : token ≠ []
  noSeparator : ∀ piece ∈ slot.pieces token, m.separator ∉ piece
  isToken : m.tokenOf (slot.left ++ token ++ slot.right) = token

theorem tokens_eq_tokensOf (text : List Char) :
    m.tokens text = m.tokensOf (Text.pieces m.separator text) := rfl

theorem tokenOf_infix (piece : List Char) : m.tokenOf piece <:+: piece := by
  rw [tokenOf]
  split_ifs
  · exact (Text.dropEndWhile_prefix _).isInfix.trans (List.dropWhile_suffix _).isInfix
  · exact List.infix_rfl

/-- Every token of a pattern stands in a slot of it. -/
theorem exists_slot_of_mem_tokens (mem : token ∈ m.tokens pattern) :
    ∃ slot, m.Holds slot token ∧ m.put slot token = pattern := by
  obtain ⟨made, ne⟩ := List.mem_filter.mp mem
  obtain ⟨piece, isPiece, own⟩ := List.mem_map.mp made
  have isToken : m.tokenOf piece = token := own
  obtain ⟨before, after, split⟩ := List.append_of_mem isPiece
  obtain ⟨left, right, rfl⟩ : ∃ left right, left ++ token ++ right = piece :=
    isToken ▸ tokenOf_infix piece
  refine ⟨⟨before, left, right, after⟩, ⟨by simpa using ne, ?_, isToken⟩, ?_⟩
  · rw [Slot.pieces, ← split]
    exact fun other isOther => Text.separator_notMem_of_mem_pieces isOther
  · rw [put, Slot.pieces, ← split, Text.joined_pieces]

theorem middle_eq_self_iff {left right : List Char} :
    left ++ token ++ right = token ↔ left = [] ∧ right = [] := by
  constructor
  · intro eq
    have length := congrArg List.length eq
    simp only [List.length_append] at length
    exact ⟨List.length_eq_zero_iff.mp (by omega), List.length_eq_zero_iff.mp (by omega)⟩
  · rintro ⟨rfl, rfl⟩
    simp

namespace Holds

theorem pieces_put (h : m.Holds slot token) :
    Text.pieces m.separator (m.put slot token) = slot.pieces token :=
  Text.pieces_joined (by simp [Slot.pieces]) h.noSeparator

theorem tokens_put (h : m.Holds slot token) :
    m.tokens (m.put slot token) = m.tokensOf slot.before ++ token :: m.tokensOf slot.after := by
  rw [tokens_eq_tokensOf, h.pieces_put, Slot.pieces, tokensOf, List.map_append, List.map_cons,
    h.isToken, List.filter_append, List.filter_cons, if_pos (by simpa using h.ne_nil)]
  rfl

theorem startsWith_put (h : m.Holds slot token) :
    Text.startsWith m.separator (m.put slot token) = true ↔
      ∃ others, slot.before = [] :: others := by
  rw [Text.startsWith_iff_pieces, h.pieces_put, Slot.pieces]
  cases slot.before with
  | nil => simp [h.ne_nil]
  | cons piece others => simp

theorem endsWith_put (h : m.Holds slot token) :
    Text.endsWith m.separator (m.put slot token) = true ↔
      ∃ others, slot.after = others ++ [[]] := by
  rw [Text.endsWith_iff_pieces, h.pieces_put, Slot.pieces]
  obtain none | ⟨others, last, some⟩ := slot.after.eq_nil_or_concat
  · have own : slot.left = [] → token = [] → slot.right ≠ [] := fun _ eq => absurd eq h.ne_nil
    simpa [none] using fun _ => own
  · -- The last piece is not that of the token, so that it stands after the slot.
    rw [some, List.concat_eq_append, ← List.cons_append, ← List.append_assoc]
    constructor
    · rintro ⟨front, _, eq⟩
      exact ⟨others, congrArg (others ++ ·) (List.append_inj' eq rfl).2⟩
    · rintro ⟨front, eq⟩
      exact ⟨_, by simp, congrArg (_ ++ ·) (List.append_inj' eq rfl).2⟩

/-- What is around a token in its slot is trimmed off around another token, too. -/
theorem replace (h : m.Holds slot token) (ne : other ≠ []) (solid : Text.IsSolid other)
    (noSeparator : m.separator ∉ other) : m.Holds slot other where
  ne_nil := ne
  noSeparator := by
    obtain ⟨before, others⟩ := List.forall_mem_append.mp h.noSeparator
    obtain ⟨own, after⟩ := List.forall_mem_cons.mp others
    refine List.forall_mem_append.mpr ⟨before, List.forall_mem_cons.mpr ⟨?_, after⟩⟩
    simp only [List.mem_append, not_or] at own ⊢
    exact ⟨⟨own.1.1, noSeparator⟩, own.2⟩
  isToken := by
    have own := h.isToken
    rw [tokenOf] at own ⊢
    split_ifs at own ⊢
    · have isSolid : Text.IsSolid token := own ▸ Text.isSolid_trim _
      rw [Text.trim_append h.ne_nil isSolid, middle_eq_self_iff] at own
      rw [Text.trim_append ne solid, middle_eq_self_iff]
      exact own
    · rw [middle_eq_self_iff] at own ⊢
      exact own

/-- Whether the pattern begins with a separator does not depend on the token. -/
theorem startsWith_put_eq (h : m.Holds slot token) (h' : m.Holds slot other) :
    Text.startsWith m.separator (m.put slot token) =
      Text.startsWith m.separator (m.put slot other) := by
  rw [Bool.eq_iff_iff, h.startsWith_put, h'.startsWith_put]

/-- Whether the pattern ends with a separator does not depend on the token. -/
theorem endsWith_put_eq (h : m.Holds slot token) (h' : m.Holds slot other) :
    Text.endsWith m.separator (m.put slot token) =
      Text.endsWith m.separator (m.put slot other) := by
  rw [Bool.eq_iff_iff, h.endsWith_put, h'.endsWith_put]

/-- The pattern matches a path with either token alike if both accept the same texts of it. At the
end of the pattern there may be no text left for the token. -/
theorem map_isSome_capture {segment segment' : Segment} (h : m.Holds slot token)
    (h' : m.Holds slot other) (compiled : m.compile token = .ok segment)
    (compiled' : m.compile other = .ok segment') (notSpread : token ≠ spreadToken)
    (notSpread' : other ≠ spreadToken)
    (same : ∀ text ∈ m.tokens path,
      segment.accepts (!m.caseSensitive) text = segment'.accepts (!m.caseSensitive) text)
    (inner : m.tokensOf slot.after ≠ [] ∨ Text.endsWith m.separator path = false) :
    (m.capture (m.put slot token) path).map Option.isSome =
      (m.capture (m.put slot other) path).map Option.isSome := by
  have starts := h.startsWith_put_eq h'
  have ends := h.endsWith_put_eq h'
  have spreads : (m.tokens (m.put slot token)).contains spreadToken =
      (m.tokens (m.put slot other)).contains spreadToken := by
    rw [Bool.eq_iff_iff, h.tokens_put, h'.tokens_put]
    simp [notSpread.symm, notSpread'.symm]
  have ending : m.ending (m.put slot token) path = m.ending (m.put slot other) path := by
    rw [AntMatcher.ending, AntMatcher.ending, spreads, ends]
  by_cases begins : Text.startsWith m.separator (m.put slot token) =
      Text.startsWith m.separator path
  · rw [capture_eq_walk begins, capture_eq_walk (starts ▸ begins), ← ending, h.tokens_put,
      h'.tokens_put, List.map_append, List.map_append, List.map_cons, List.map_cons,
      Token.ofText, if_neg notSpread, compiled, Token.ofText, if_neg notSpread', compiled']
    apply map_isSome_walk_replace same
    rwa [Ne, List.map_eq_nil_iff]
  · rw [capture_of_startsWith_ne begins, capture_of_startsWith_ne (starts ▸ begins)]

end Holds

/-! ## The lone asterisk and the variable -/

/-- A variable without a constraint as a token. -/
def variableToken (name : List Char) : List Char := Part.writing (.placeholder name)

variable {name : List Char}

/-- The segment of a variable without a constraint. -/
def variableSegment (ignoreCase : Bool) (name : List Char) : Segment :=
  .pattern (.ofRegex (globRegex ignoreCase [.variable])) [name]

theorem compile_variableToken (balanced : balancedFrom 0 name = true) (noColon : ':' ∉ name) :
    m.compile (variableToken name) = .ok (variableSegment (!m.caseSensitive) name) := by
  have plain : ∀ part ∈ [Part.placeholder name], part.IsPlain :=
    List.forall_mem_singleton.mpr ⟨balanced, noColon⟩
  have own : writing [.placeholder name] = variableToken name := List.flatMap_singleton _ _
  have fits : (globRegex (!m.caseSensitive) [.variable]).fits = true := by
    cases m.caseSensitive <;> decide +kernel
  rw [AntMatcher.compile, ← own, compile_of_isTemplate plain rfl]
  exact if_pos fits

/-- A variable accepts the texts without a line feed. -/
theorem accepts_variable_iff {ignoreCase : Bool} {text : List Char} :
    (variableSegment ignoreCase name).accepts ignoreCase text = true ↔ '\n' ∉ text := by
  have takes : Glob.Sign.variable.Takes ignoreCase text ↔ '\n' ∉ text := forall_isBreak_iff
  rw [Segment.accepts, variableSegment, capture?_globRegex, Option.isSome_map,
    Glob.isSome_match?_iff, ← takes]
  constructor
  · rintro ⟨parts, cut⟩
    obtain ⟨part, others, tail, rfl, rfl, own, rest⟩ := Glob.cut_cons_iff.mp cut
    obtain ⟨rfl, rfl⟩ := Glob.cut_nil_iff.mp rest
    rwa [List.append_nil]
  · intro own
    exact ⟨[text], .cons own .nil, List.flatten_singleton⟩

theorem isSolid_variableToken : Text.IsSolid (variableToken name) := by
  have blank : Unicode.Property.whiteSpace.contains '\x7b' = false ∧
      Unicode.Property.whiteSpace.contains '\x7d' = false := by decide
  constructor
  · intro c first
    obtain rfl : '\x7b' = c := Option.some.inj first
    exact blank.1
  · intro c last
    rw [variableToken, Part.writing, ← List.cons_append, List.getLast?_concat] at last
    obtain rfl := Option.some.inj last
    exact blank.2

/-- A lone asterisk and a variable without a constraint do the same in a pattern, up to the name of
the pattern in an error, for every path that has no line feed in a token. Only at the end of a
pattern the asterisk also takes the empty rest of a path that ends with a separator. -/
theorem isMatch_put_variable (h : m.Holds slot ['*']) (balanced : balancedFrom 0 name = true)
    (noColon : ':' ∉ name) (noSeparator : m.separator ∉ variableToken name)
    (inner : m.tokensOf slot.after ≠ [] ∨ Text.endsWith m.separator path = false)
    (noLineFeed : ∀ text ∈ m.tokens path, '\n' ∉ text) :
    ∃ result,
      m.isMatch (m.put slot ['*']) path = m.named (m.put slot ['*']) result ∧
      m.isMatch (m.put slot (variableToken name)) path =
        m.named (m.put slot (variableToken name)) result := by
  have own : m.Holds slot (variableToken name) :=
    h.replace (List.cons_ne_nil _ _) isSolid_variableToken noSeparator
  have asterisk : m.compile ['*'] = .ok .any := compile_eq_any_iff.mpr rfl
  have accepts : ∀ text ∈ m.tokens path, Segment.any.accepts (!m.caseSensitive) text =
      (variableSegment (!m.caseSensitive) name).accepts (!m.caseSensitive) text := by
    intro text mem
    rw [accepts_variable_iff.mpr (noLineFeed text mem)]
    rfl
  have same := h.map_isSome_capture own asterisk (compile_variableToken balanced noColon)
    (by decide) nofun accepts inner
  exact ⟨_, m.isMatch_eq_capture _ _, by rw [m.isMatch_eq_capture, same]⟩

/-- An asterisk between other tokens, and a path that ends with a separator. -/
theorem isMatch_put_variable_inner :
    ∃ result,
      AntMatcher.default.isMatch "/api/*/**/{id}".toList "/api/v1/a/7/".toList =
        AntMatcher.default.named "/api/*/**/{id}".toList result ∧
      AntMatcher.default.isMatch "/api/{v}/**/{id}".toList "/api/v1/a/7/".toList =
        AntMatcher.default.named "/api/{v}/**/{id}".toList result := by
  let slot : Slot := ⟨[[], "api".toList], [], [], ["**".toList, "{id}".toList]⟩
  have holds : AntMatcher.default.Holds slot ['*'] := ⟨by decide, by decide, by decide⟩
  have balanced : balancedFrom 0 ['v'] = true := by decide
  have inner : AntMatcher.default.tokensOf slot.after ≠ [] := by decide
  have noLineFeed : ∀ text ∈ AntMatcher.default.tokens "/api/v1/a/7/".toList, '\n' ∉ text := by
    decide
  have asterisk : AntMatcher.default.put slot ['*'] = "/api/*/**/{id}".toList := by decide
  have placeholder : AntMatcher.default.put slot (variableToken ['v']) =
      "/api/{v}/**/{id}".toList := by decide
  rw [← asterisk, ← placeholder]
  exact isMatch_put_variable holds balanced (by decide) (by decide) (.inl inner) noLineFeed

/-- A line feed makes the difference: the asterisk takes it, and the variable does not. -/
theorem isMatch_lineFeed :
    AntMatcher.default.isMatch "/*".toList "/a\nb".toList = .ok true ∧
      AntMatcher.default.isMatch "/{v}".toList "/a\nb".toList = .ok false := by
  constructor <;> decide +kernel

end Interception.AntMatcher
