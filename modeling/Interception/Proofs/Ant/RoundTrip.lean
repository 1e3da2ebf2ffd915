import Interception.Proofs.Ant.Extraction
import Interception.Proofs.Ant.UriTemplate
import Interception.Proofs.Text

/-!
# Expanding and extracting

A pattern whose tokens are URI templates is expanded when every variable in it is replaced by a
value. Extracting the variables of the pattern from a path is the way back: where it succeeds, the
values that it returns expand the tokens of the pattern to those of the path. And in what a pattern
is expanded to, values are found that expand it to the same path again, though not always the values
that it was expanded with: of two variables side by side the first one gets all.
-/

namespace Interception.Ant

variable {ending : Ending} {row : List Part} {rows : List (List Part)} {tokens : List Token}
variable {blocks : List (List (List Char))} {values : List Char → List Char}

/-- The token that a row of parts makes, where case counts. -/
def rowToken (row : List Part) : Token := .one (Segment.compile false (writing row))

theorem isAny_rowToken (plain : ∀ part ∈ row, part.IsPlain) : (rowToken row).isAny = false := by
  rw [rowToken]
  cases h : isTemplate (writing row) with
  | true =>
      rw [compile_of_isTemplate plain h]
      split_ifs <;> rfl
  | false =>
      rw [compile_of_not_isTemplate plain h]
      rfl

/-- The rows that are not empty. -/
def tokenRows (rows : List (List Part)) : List (List Part) := rows.filter (!·.isEmpty)

theorem mem_tokenRows_iff {row : List Part} : row ∈ tokenRows rows ↔ row ∈ rows ∧ row ≠ [] := by
  simp [tokenRows]

theorem flatMap_names_tokenRows (rows : List (List Part)) :
    (tokenRows rows).flatMap names = rows.flatMap names := by
  induction rows with
  | nil => rfl
  | cons row rows ih =>
      cases row with
      | nil => exact ih
      | cons part row => exact congrArg (names (part :: row) ++ ·) ih

/-! ## Rows in an alignment -/

/-- What an alignment is in which a row comes first: the row takes one text, and whatever values
agree with what it captures fill it to this text. -/
theorem exists_of_fits_rowToken (plain : ∀ part ∈ row, part.IsPlain)
    (fits : Fits false ending (rowToken row :: tokens) blocks) :
    ∃ text own others, blocks = [text] :: others ∧ Fits false ending tokens others ∧
      captured (rowToken row :: tokens) blocks = own ++ captured tokens others ∧
      own.map Prod.fst = names row ∧
      ∀ values, (∀ pair ∈ own, values pair.1 = pair.2) → text = fill values row := by
  obtain ⟨block, others, rfl, takes, rest⟩ | ⟨_, _, isAny, _⟩ := fits_cons_iff.mp fits
  · obtain ⟨segment, text, compiled, rfl, accepts⟩ := takes
    obtain ⟨own, taken⟩ := Option.isSome_iff_exists.mp accepts
    obtain ⟨texts, takes, flatten, captures⟩ := exists_texts_of_capture plain compiled taken
    refine ⟨text, own, others, rfl, rest, ?_, ?_, ?_⟩
    · rw [captured, rowToken, compiled, captured_of_capture? taken]
    · rw [← captures, map_fst_capturedFrom takes]
    · intro values agree
      rw [← flatten, flatten_eq_fill takes (captures ▸ agree)]
  · rw [isAny_rowToken plain] at isAny
    cases isAny

/-- A row takes what it is filled to. -/
theorem exists_capture_fill {segment : Segment} (plain : ∀ part ∈ row, part.IsPlain)
    (compiled : Segment.compile false (writing row) = .ok segment)
    (noLineFeed : ∀ name ∈ names row, '\n' ∉ values name) :
    ∃ own, segment.capture? false (fill values row) = some own :=
  exists_capture_of_texts plain compiled (takes_filled noLineFeed)

variable (plain : ∀ row ∈ rows, ∀ part ∈ row, part.IsPlain)
include plain

theorem agrees_of_fits (fits : Fits false ending (rows.map rowToken) blocks) :
    ending.agrees = true := by
  induction rows generalizing blocks with
  | nil => exact (fits_nil_iff.mp fits).2
  | cons row rows ih =>
      obtain ⟨own, others⟩ := List.forall_mem_cons.mp plain
      obtain ⟨_, _, _, _, rest, _⟩ := exists_of_fits_rowToken own fits
      exact ih others rest

theorem map_fst_captured (fits : Fits false ending (rows.map rowToken) blocks) :
    (captured (rows.map rowToken) blocks).map Prod.fst = rows.flatMap names := by
  induction rows generalizing blocks with
  | nil => rfl
  | cons row rows ih =>
      obtain ⟨plainRow, plainRows⟩ := List.forall_mem_cons.mp plain
      obtain ⟨_, own, others, _, rest, captures, keys, _⟩ := exists_of_fits_rowToken plainRow fits
      rw [List.map_cons, captures, List.map_append, keys, ih plainRows rest, List.flatMap_cons]

theorem flatten_eq_map_fill (fits : Fits false ending (rows.map rowToken) blocks)
    (agree : ∀ pair ∈ captured (rows.map rowToken) blocks, values pair.1 = pair.2) :
    blocks.flatten = rows.map (fill values) := by
  induction rows generalizing blocks with
  | nil =>
      rw [(fits_nil_iff.mp fits).1]
      rfl
  | cons row rows ih =>
      obtain ⟨plainRow, plainRows⟩ := List.forall_mem_cons.mp plain
      obtain ⟨text, own, others, rfl, rest, captures, _, filled⟩ :=
        exists_of_fits_rowToken plainRow fits
      rw [List.map_cons, captures] at agree
      obtain ⟨agreeRow, agreeRows⟩ := List.forall_mem_append.mp agree
      rw [List.flatten_cons, List.map_cons, filled values agreeRow, ih plainRows rest agreeRows,
        List.singleton_append]

/-! ## Walking over what rows were filled to -/

variable (noLineFeed : ∀ name ∈ rows.flatMap names, '\n' ∉ values name)
include noLineFeed

theorem fits_of_isSmall (small : ∀ row ∈ rows, IsSmall row) (agrees : ending.agrees = true) :
    Fits false ending (rows.map rowToken) (rows.map fun row => [fill values row]) := by
  induction rows with
  | nil => exact .done agrees
  | cons row rows ih =>
      obtain ⟨plainRow, plainRows⟩ := List.forall_mem_cons.mp plain
      obtain ⟨smallRow, smallRows⟩ := List.forall_mem_cons.mp small
      obtain ⟨noneHere, noneThere⟩ := List.forall_mem_append.mp noLineFeed
      obtain ⟨segment, compiled⟩ := compile_of_isSmall plainRow smallRow
      obtain ⟨own, taken⟩ := exists_capture_fill plainRow compiled noneHere
      refine .next ⟨segment, fill values row, compiled, rfl, ?_⟩ (ih plainRows noneThere smallRows)
      rw [Segment.accepts, taken]
      rfl

/-- A template that is too large is come to if there is one: the templates before it accept. -/
theorem walk_of_not_isSmall (large : ∃ row ∈ rows, ¬ IsSmall row) :
    ∃ row ∈ rows, ¬ IsSmall row ∧ walk false ending (rows.map rowToken) (rows.map (fill values)) =
      .error (.invalidRegex (sourceText (row.map Part.element))) := by
  induction rows with
  | nil => simp at large
  | cons row rows ih =>
      obtain ⟨plainRow, plainRows⟩ := List.forall_mem_cons.mp plain
      obtain ⟨noneHere, noneThere⟩ := List.forall_mem_append.mp noLineFeed
      rw [List.map_cons, List.map_cons, rowToken]
      by_cases small : IsSmall row
      · have further : ∃ row ∈ rows, ¬ IsSmall row := by simpa [small] using large
        obtain ⟨segment, compiled⟩ := compile_of_isSmall plainRow small
        obtain ⟨own, taken⟩ := exists_capture_fill plainRow compiled noneHere
        obtain ⟨first, mem, unfit, failed⟩ := ih plainRows noneThere further
        refine ⟨first, List.mem_cons_of_mem row mem, unfit, ?_⟩
        rw [compiled, walk_one_cons, taken, failed]
        rfl
      · refine ⟨row, List.mem_cons_self, small, ?_⟩
        rw [compile_of_not_isSmall plainRow small]
        rfl

end Interception.Ant

namespace Interception.AntMatcher

open Ant

variable {m : AntMatcher} {rows : List (List Part)} {text other pattern path : List Char}
variable {f g : List Part → List Char} {values : List Char → List Char} {vars : Dict String}

/-! ## Texts that are made of rows -/

/-- What lies between the separators of the text is what `f` makes of the rows, and only of the
empty row it makes nothing. -/
structure Renders (m : AntMatcher) (f : List Part → List Char) (rows : List (List Part))
    (text : List Char) : Prop where
  pieces : Text.pieces m.separator text = rows.map f
  eq_nil_iff : ∀ row ∈ rows, f row = [] ↔ row = []

namespace Renders

theorem tokens_eq (h : m.Renders f rows text) (untrimmed : m.trimTokens = false) :
    m.tokens text = (tokenRows rows).map f := by
  have same : ∀ row ∈ rows, (!(f row).isEmpty) = !row.isEmpty := by
    intro row mem
    rw [Bool.eq_iff_iff]
    simpa using (h.eq_nil_iff row mem).not
  simp only [AntMatcher.tokens, untrimmed, h.pieces, Bool.false_eq_true, if_false, List.map_id']
  rw [List.filter_map, tokenRows, ← List.filter_congr same]
  rfl

theorem startsWith_iff (h : m.Renders f rows text) :
    Text.startsWith m.separator text = true ↔ ∃ rest, rest ≠ [] ∧ rows = [] :: rest := by
  rw [Text.startsWith_iff_pieces, h.pieces]
  constructor
  · rintro ⟨_, ne, split⟩
    obtain ⟨row, rest, rfl, empty, rfl⟩ := List.map_eq_cons_iff.mp split
    obtain rfl := (h.eq_nil_iff row List.mem_cons_self).mp empty
    exact ⟨rest, fun eq => ne (congrArg (List.map f) eq), rfl⟩
  · rintro ⟨rest, ne, rfl⟩
    refine ⟨rest.map f, fun eq => ne (List.map_eq_nil_iff.mp eq), ?_⟩
    rw [List.map_cons, (h.eq_nil_iff [] List.mem_cons_self).mpr rfl]

theorem endsWith_iff (h : m.Renders f rows text) :
    Text.endsWith m.separator text = true ↔ ∃ front, front ≠ [] ∧ rows = front ++ [[]] := by
  rw [Text.endsWith_iff_pieces, h.pieces]
  constructor
  · rintro ⟨_, ne, split⟩
    obtain ⟨front, last, rfl, rfl, single⟩ := List.map_eq_append_iff.mp split
    obtain ⟨row, rfl, empty⟩ := List.map_eq_singleton_iff.mp single
    obtain rfl := (h.eq_nil_iff row List.mem_concat_self).mp empty
    exact ⟨front, fun eq => ne (congrArg (List.map f) eq), rfl⟩
  · rintro ⟨front, ne, rfl⟩
    refine ⟨front.map f, fun eq => ne (List.map_eq_nil_iff.mp eq), ?_⟩
    rw [List.map_append, List.map_singleton, (h.eq_nil_iff [] List.mem_concat_self).mpr rfl]

theorem startsWith_eq (h : m.Renders f rows text) (h' : m.Renders g rows other) :
    Text.startsWith m.separator text = Text.startsWith m.separator other := by
  rw [Bool.eq_iff_iff, h.startsWith_iff, h'.startsWith_iff]

theorem endsWith_eq (h : m.Renders f rows text) (h' : m.Renders g rows other) :
    Text.endsWith m.separator text = Text.endsWith m.separator other := by
  rw [Bool.eq_iff_iff, h.endsWith_iff, h'.endsWith_iff]

end Renders

/-- The rows write the pattern, one for each piece between separators, and no variable stands in it
twice. -/
structure Composes (m : AntMatcher) (rows : List (List Part)) (pattern : List Char) : Prop where
  pieces : Text.pieces m.separator pattern = rows.map writing
  plain : ∀ row ∈ rows, ∀ part ∈ row, part.IsPlain
  distinct : (rows.flatMap names).Nodup

/-- The values of the variables have no separator and no line feed in them, and no token becomes
empty when they are put in. -/
structure Admits (m : AntMatcher) (rows : List (List Part)) (values : List Char → List Char) :
    Prop where
  noSeparator : ∀ name ∈ rows.flatMap names, m.separator ∉ values name
  noLineFeed : ∀ name ∈ rows.flatMap names, '\n' ∉ values name
  ne_nil : ∀ row ∈ rows, row ≠ [] → fill values row ≠ []

theorem Admits.noLineFeed_tokenRows (admits : m.Admits rows values) :
    ∀ name ∈ (tokenRows rows).flatMap names, '\n' ∉ values name := by
  rw [flatMap_names_tokenRows]
  exact admits.noLineFeed

/-- The pattern with a value in the place of each variable. -/
def expansion (m : AntMatcher) (rows : List (List Part)) (values : List Char → List Char) :
    List Char :=
  Text.joined m.separator (rows.map (fill values))

/-- The value of a variable, if it has one. -/
def valueOf (vars : Dict String) (name : List Char) : List Char :=
  ((vars.get? (String.ofList name)).getD "").toList

namespace Composes

variable (h : m.Composes rows pattern)
include h

theorem renders : m.Renders writing rows pattern := ⟨h.pieces, fun _ _ => writing_eq_nil_iff⟩

theorem rows_ne_nil : rows ≠ [] := by
  rintro rfl
  exact Text.pieces_ne_nil m.separator pattern h.pieces

theorem plain_tokenRows : ∀ row ∈ tokenRows rows, ∀ part ∈ row, part.IsPlain :=
  fun row mem => h.plain row (mem_tokenRows_iff.mp mem).1

/-- No separator is written by a row. -/
theorem separator_notMem {row : List Part} (mem : row ∈ rows) : m.separator ∉ writing row := by
  have isPiece : writing row ∈ Text.pieces m.separator pattern := by
    rw [h.pieces]
    exact List.mem_map_of_mem mem
  exact Text.separator_notMem_of_mem_pieces isPiece

/-- The expanded pattern is made of the rows, too. -/
theorem renders_expansion (admits : m.Admits rows values) :
    m.Renders (fill values) rows (m.expansion rows values) where
  pieces := by
    refine Text.pieces_joined (fun eq => h.rows_ne_nil (List.map_eq_nil_iff.mp eq)) ?_
    refine List.forall_mem_map.mpr fun row mem => notMem_fill (h.separator_notMem mem) ?_
    intro name named
    exact admits.noSeparator name (List.mem_flatMap.mpr ⟨row, mem, named⟩)
  eq_nil_iff := by
    intro row mem
    refine ⟨fun eq => ?_, ?_⟩
    · by_contra ne
      exact admits.ne_nil row mem ne eq
    · rintro rfl
      rfl

variable (untrimmed : m.trimTokens = false)
include untrimmed

/-- Without `**` in the pattern its end and that of the path have to agree. -/
theorem agrees_iff : (m.ending pattern path).agrees = true ↔
    Text.endsWith m.separator pattern = Text.endsWith m.separator path := by
  rw [agrees_ending_iff, or_iff_right]
  rw [h.renders.tokens_eq untrimmed]
  intro mem
  obtain ⟨row, own, eq⟩ := List.mem_map.mp mem
  exact writing_ne_star_cons (h.plain_tokenRows row own) ['*'] eq

variable (case : m.caseSensitive = true)
include case

theorem patternTokens_eq : m.patternTokens pattern = (tokenRows rows).map rowToken := by
  rw [patternTokens, h.renders.tokens_eq untrimmed, List.map_map]
  refine List.map_congr_left fun row mem => ?_
  have plain := h.plain_tokenRows row mem
  have notSpread : writing row ≠ spreadToken := writing_ne_star_cons plain ['*']
  rw [Function.comp_apply, Token.ofText, if_neg notSpread, AntMatcher.compile, case]
  rfl

/-! ## Out of a path -/

/-- Extracted variables are those of the pattern, and expand its tokens to those of the path. -/
theorem extract_expands (own : m.extract pattern path = .ok vars) :
    (∀ name, (vars.get? name).isSome = true ↔ name.toList ∈ rows.flatMap names) ∧
    m.tokens path = (tokenRows rows).map (fill (valueOf vars)) ∧
    Text.startsWith m.separator pattern = Text.startsWith m.separator path ∧
    Text.endsWith m.separator pattern = Text.endsWith m.separator path := by
  obtain ⟨captures, found⟩ := exists_capture_of_extract own
  obtain ⟨blocks, ⟨begins, flatten, fits⟩, captured, _⟩ := exists_isAlignment_of_capture found
  rw [capturedBy, h.patternTokens_eq untrimmed case] at captured
  rw [h.patternTokens_eq untrimmed case, case, Bool.not_true] at fits
  have keys : captures.map Prod.fst = rows.flatMap names := by
    rw [← captured, ← flatMap_names_tokenRows]
    exact map_fst_captured h.plain_tokenRows fits
  -- No name is captured twice, so that every capture is the value of its variable.
  have bound : ∀ pair ∈ captures,
      vars.get? (String.ofList pair.1) = some (String.ofList pair.2) :=
    fun _ mem => get?_extract_of_mem found own (keys ▸ h.distinct) mem
  refine ⟨?_, ?_, begins, (h.agrees_iff untrimmed).mp (agrees_of_fits h.plain_tokenRows fits)⟩
  · intro name
    rw [← keys, List.mem_map]
    constructor
    · intro isSome
      obtain ⟨value, has⟩ := Option.isSome_iff_exists.mp isSome
      rw [← name.ofList_toList, ← value.ofList_toList, get?_extract found own] at has
      obtain ⟨earlier, later, split, _⟩ := has
      exact ⟨(name.toList, value.toList), split ▸ List.mem_append_right earlier List.mem_cons_self,
        rfl⟩
    · rintro ⟨pair, mem, eq⟩
      have has := bound pair mem
      rw [eq, name.ofList_toList] at has
      rw [has]
      rfl
  · rw [← flatten]
    refine flatten_eq_map_fill h.plain_tokenRows fits ?_
    rw [captured]
    intro pair mem
    rw [valueOf, bound pair mem, Option.getD_some, String.toList_ofList]

/-! ## Into a path and out of it -/

theorem capture_expansion (admits : m.Admits rows values) :
    m.capture pattern (m.expansion rows values) =
      walk false (m.ending pattern (m.expansion rows values)) ((tokenRows rows).map rowToken)
        ((tokenRows rows).map (fill values)) := by
  have renders := h.renders_expansion admits
  rw [capture_eq_walk (h.renders.startsWith_eq renders), renders.tokens_eq untrimmed,
    ← patternTokens, h.patternTokens_eq untrimmed case, case]
  rfl

/-- What a pattern is expanded to is matched, and the extracted values expand it to the same. -/
theorem extract_expansion (admits : m.Admits rows values) (small : ∀ row ∈ rows, IsSmall row) :
    m.isMatch pattern (m.expansion rows values) = .ok true ∧
    ∃ vars, m.extract pattern (m.expansion rows values) = .ok vars ∧
      m.expansion rows (valueOf vars) = m.expansion rows values := by
  have renders := h.renders_expansion admits
  have agrees : (m.ending pattern (m.expansion rows values)).agrees = true :=
    (h.agrees_iff untrimmed).mpr (h.renders.endsWith_eq renders)
  have fits := fits_of_isSmall h.plain_tokenRows admits.noLineFeed_tokenRows
    (fun row mem => small row (mem_tokenRows_iff.mp mem).1) agrees
  obtain ⟨captures, found⟩ := walk_of_fits fits
  rw [← List.flatMap_def, ← List.map_eq_flatMap,
    ← h.capture_expansion untrimmed case admits] at found
  have own := extract_of_capture found
  refine ⟨isMatch_of_capture found, _, own, ?_⟩
  -- The tokens of the path are known from both sides, which gives the text of every row.
  have tokens := (h.extract_expands untrimmed case own).2.1
  rw [renders.tokens_eq untrimmed] at tokens
  refine congrArg (Text.joined m.separator) (List.map_congr_left fun row mem => ?_)
  by_cases empty : row = []
  · rw [empty]
    rfl
  · exact (List.map_inj_left.mp tokens row (mem_tokenRows_iff.mpr ⟨mem, empty⟩)).symm

/-- Where a template is too large the expanded pattern is not matched: the attempt fails. -/
theorem isMatch_expansion_of_not_isSmall (admits : m.Admits rows values)
    (large : ∃ row ∈ rows, ¬ IsSmall row) :
    ∃ row ∈ rows, ¬ IsSmall row ∧ m.isMatch pattern (m.expansion rows values) =
      .error (m.faultIn pattern (.invalidRegex (sourceText (row.map Part.element)))) := by
  obtain ⟨row, mem, large⟩ := large
  have ne : row ≠ [] := by
    rintro rfl
    exact large fun named => absurd rfl named
  obtain ⟨first, own, unfit, failed⟩ := walk_of_not_isSmall h.plain_tokenRows
    admits.noLineFeed_tokenRows ⟨row, mem_tokenRows_iff.mpr ⟨mem, ne⟩, large⟩
  refine ⟨first, (mem_tokenRows_iff.mp own).1, unfit, isMatch_of_capture_error ?_⟩
  rw [h.capture_expansion untrimmed case admits]
  exact failed

end Composes

/-- Expanding a pattern of URI templates and extracting its variables undo each other. Whatever is
extracted from a path binds exactly the variables of the pattern, and expands the tokens of the
pattern to those of the path, which begins and ends with a separator if the pattern does. Conversely
what the pattern is expanded to is matched, and the values extracted from it expand the pattern to
the same path; except that matching fails where the regular expression of a token is too large. -/
theorem uriTemplate_roundTrip (h : m.Composes rows pattern) (case : m.caseSensitive = true)
    (untrimmed : m.trimTokens = false) :
    (∀ path vars, m.extract pattern path = .ok vars →
      (∀ name, (vars.get? name).isSome = true ↔ name.toList ∈ rows.flatMap names) ∧
      m.tokens pattern = (tokenRows rows).map writing ∧
      m.tokens path = (tokenRows rows).map (fill (valueOf vars)) ∧
      Text.startsWith m.separator pattern = Text.startsWith m.separator path ∧
      Text.endsWith m.separator pattern = Text.endsWith m.separator path) ∧
    ∀ values, m.Admits rows values →
      ((∀ row ∈ rows, IsSmall row) →
        m.isMatch pattern (m.expansion rows values) = .ok true ∧
        ∃ vars, m.extract pattern (m.expansion rows values) = .ok vars ∧
          m.expansion rows (valueOf vars) = m.expansion rows values) ∧
      ((∃ row ∈ rows, ¬ IsSmall row) →
        ∃ row ∈ rows, ¬ IsSmall row ∧ m.isMatch pattern (m.expansion rows values) =
          .error (m.faultIn pattern (.invalidRegex (sourceText (row.map Part.element))))) := by
  refine ⟨?_, fun values admits => ⟨?_, ?_⟩⟩
  · intro path vars own
    obtain ⟨bound, tokens, begins, ends⟩ := h.extract_expands untrimmed case own
    exact ⟨bound, h.renders.tokens_eq untrimmed, tokens, begins, ends⟩
  · exact h.extract_expansion untrimmed case admits
  · exact h.isMatch_expansion_of_not_isSmall untrimmed case admits

/-- The pattern `/v{a}{b}/`, with `x` and `y` for its variables. -/
theorem uriTemplate_roundTrip_adjacent :
    AntMatcher.default.Composes [[], [.char 'v', .placeholder ['a'], .placeholder ['b']], []]
      "/v{a}{b}/".toList ∧
    AntMatcher.default.isMatch "/v{a}{b}/".toList "/vxy/".toList = .ok true ∧
    ∃ vars, AntMatcher.default.extract "/v{a}{b}/".toList "/vxy/".toList = .ok vars ∧
      AntMatcher.default.expansion [[], [.char 'v', .placeholder ['a'], .placeholder ['b']], []]
        (valueOf vars) = "/vxy/".toList := by
  have composes : AntMatcher.default.Composes
      [[], [.char 'v', .placeholder ['a'], .placeholder ['b']], []] "/v{a}{b}/".toList :=
    ⟨by decide, by decide, by decide⟩
  have admits : AntMatcher.default.Admits
      [[], [.char 'v', .placeholder ['a'], .placeholder ['b']], []]
      (fun name => if name = ['a'] then ['x'] else ['y']) :=
    ⟨by decide, by decide, by decide⟩
  have small : ∀ row ∈ [[], [.char 'v', .placeholder ['a'], .placeholder ['b']], []],
      IsSmall row := by decide +kernel
  have trip := (uriTemplate_roundTrip composes rfl rfl).2 _ admits
  exact ⟨composes, trip.1 small⟩

/-! ## Templates that are too large -/

/-- So many clefs in front of a variable. -/
def clefs (n : Nat) : List Part := (List.replicate n '𝄞').map Part.char ++ [.placeholder ['a']]

theorem writing_clefs (n : Nat) : writing (clefs n) = List.replicate n '𝄞' ++ "{a}".toList := by
  rw [clefs, writing_append, writing_chars]
  rfl

theorem composes_clefs (n : Nat) : AntMatcher.default.Composes [clefs n] (writing (clefs n)) where
  pieces := by
    refine Text.pieces_of_notMem ?_
    rw [writing_clefs]
    simp [AntMatcher.default]
  plain := by
    intro row mem part own
    obtain rfl := List.mem_singleton.mp mem
    obtain own | own := List.mem_append.mp own
    · obtain ⟨c, found, rfl⟩ := List.mem_map.mp own
      obtain rfl := List.eq_of_mem_replicate found
      decide
    · obtain rfl := List.mem_singleton.mp own
      decide
  distinct := by
    rw [List.flatMap_singleton, clefs, names_append, names_chars]
    decide

theorem admits_clefs (n : Nat) : AntMatcher.default.Admits [clefs n] (fun _ => ['1']) where
  noSeparator := by simp [AntMatcher.default]
  noLineFeed := by simp
  ne_nil := by
    intro row mem _
    obtain rfl := List.mem_singleton.mp mem
    simp [clefs, fill, Part.filled]

/-- Nothing is wrong with a hundred and twenty thousand clefs in front of a variable, yet the path
that they are expanded to is not matched: their regular expression has more states than are
allowed. -/
theorem not_isMatch_clefs :
    AntMatcher.default.caseSensitive = true ∧ AntMatcher.default.trimTokens = false ∧
    AntMatcher.default.Composes [clefs 120000] (writing (clefs 120000)) ∧
    AntMatcher.default.Admits [clefs 120000] (fun _ => ['1']) ∧
    AntMatcher.default.isMatch (writing (clefs 120000))
      (AntMatcher.default.expansion [clefs 120000] fun _ => ['1']) ≠ .ok true := by
  have size : ((List.replicate 120000 '𝄞').flatMap String.utf8EncodeChar).length = 120000 * 4 := by
    rw [List.flatMap_replicate, List.length_flatten, List.map_replicate, List.sum_replicate_nat]
    rfl
  have large : ¬ IsSmall (clefs 120000) := by
    refine not_isSmall_of_large ?_ ['a'] []
    rw [size]
    decide
  obtain ⟨_, _, _, failed⟩ := (composes_clefs 120000).isMatch_expansion_of_not_isSmall rfl rfl
    (admits_clefs 120000) ⟨_, List.mem_singleton_self _, large⟩
  refine ⟨rfl, rfl, composes_clefs _, admits_clefs _, ?_⟩
  rw [failed]
  nofun

end Interception.AntMatcher
