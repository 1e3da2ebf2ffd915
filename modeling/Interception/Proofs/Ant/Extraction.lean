import Interception.Proofs.Ant.Alignment

/-!
# What is captured

A pattern and a path may align in more than one way, if there is a spread. An alignment is a row of
blocks of path tokens, one for each token of the pattern, and what a token captures depends on its
block alone.

Few path tokens are tried for a spread before many. What is left in the list of captures are those
of one alignment, and in every other alignment the spreads take more, compared from left to right:
nothing remains of the blocks that were tried before and given up.
-/

namespace Interception.Ant

/-! ## The search behind a spread -/

section FirstTail

variable {α ε β : Type} {f : List α → Except ε (Option β)} {path : List α}

/-- The search comes back empty from every tail that it tries before the one that it takes. -/
theorem eq_none_before_firstTail {result : β} (h : firstTail f path = .ok (some result)) :
    ∃ skipped rest, path = skipped ++ rest ∧ f rest = .ok (some result) ∧
      ∀ earlier later, path = earlier ++ later → earlier.length < skipped.length →
        f later = .ok none := by
  induction path with
  | nil => exact ⟨[], [], rfl, h, fun _ _ _ less => absurd less (Nat.not_lt_zero _)⟩
  | cons x xs ih =>
      rw [firstTail] at h
      cases tried : f (x :: xs) with
      | error e =>
          rw [tried] at h
          cases h
      | ok found =>
          rw [tried] at h
          cases found with
          | some first =>
              obtain rfl : first = result := by cases h; rfl
              exact ⟨[], x :: xs, rfl, tried, fun _ _ _ less => absurd less (Nat.not_lt_zero _)⟩
          | none =>
              obtain ⟨skipped, rest, rfl, taken, before⟩ := ih h
              refine ⟨x :: skipped, rest, rfl, taken, ?_⟩
              intro earlier later split less
              cases earlier with
              | nil =>
                  obtain rfl : x :: (skipped ++ rest) = later := split
                  exact tried
              | cons y earlier =>
                  obtain ⟨_, tail⟩ := List.cons.inj split
                  exact before earlier later tail (Nat.lt_of_succ_lt_succ less)

end FirstTail

/-! ## Blocks for tokens -/

/-- The blocks align with the tokens. Every token takes its block, where the ends of pattern and
path agree; or a lone asterisk at the end has the empty block, where the path ends with a
separator. -/
inductive Fits (ignoreCase : Bool) (ending : Ending) :
    List Token → List (List (List Char)) → Prop where
  | done (agrees : ending.agrees = true) : Fits ignoreCase ending [] []
  | next {token : Token} {block : List (List Char)} {tokens : List Token}
      {blocks : List (List (List Char))} (takes : token.Takes ignoreCase block)
      (rest : Fits ignoreCase ending tokens blocks) :
      Fits ignoreCase ending (token :: tokens) (block :: blocks)
  | last {token : Token} (isAny : token.isAny = true) (ends : ending.pathEnds = true) :
      Fits ignoreCase ending [token] [[]]

/-- The variables with a name that is that of a group: `index` is the number of the first one. A
group that took no part in the match has nothing for its variable. -/
def groupsOf (program : Regex.Program) (marks : List Regex.Mark) :
    (index : Nat) → List (List Char) → Captures
  | _, [] => []
  | index, name :: names =>
    match Regex.groupNamed? (groupName index) program.expression with
    | none => groupsOf program marks (index + 1) names
    | some number =>
      match Regex.captured? marks number with
      | none => groupsOf program marks (index + 1) names
      | some value => (name, value) :: groupsOf program marks (index + 1) names

/-- What a token captures from its block: what the groups of its variables have taken of the text
when its regular expression was searched for. -/
def Token.captured : Token → List (List Char) → Captures
  | .one (.ok (.pattern program names)), [text] =>
    match program.automaton.search? text with
    | none => []
    | some marks => groupsOf program marks 0 names
  | _, _ => []

/-- What the tokens capture from their blocks, in order. -/
def captured : List Token → List (List (List Char)) → Captures
  | token :: tokens, block :: blocks => token.captured block ++ captured tokens blocks
  | _, _ => []

/-- How many path tokens the spreads take, from left to right. -/
def absorbed : List Token → List (List (List Char)) → List Nat
  | .spread :: tokens, block :: blocks => block.length :: absorbed tokens blocks
  | .one _ :: tokens, _ :: blocks => absorbed tokens blocks
  | _, _ => []

variable {ignoreCase : Bool} {ending : Ending} {token : Token} {tokens : List Token}
variable {blocks : List (List (List Char))} {path : List (List Char)}

theorem fits_nil_iff : Fits ignoreCase ending [] blocks ↔ blocks = [] ∧ ending.agrees = true := by
  constructor
  · rintro (agrees | _)
    exact ⟨rfl, agrees⟩
  · rintro ⟨rfl, agrees⟩
    exact .done agrees

theorem fits_cons_iff : Fits ignoreCase ending (token :: tokens) blocks ↔
    (∃ block others, blocks = block :: others ∧ token.Takes ignoreCase block ∧
      Fits ignoreCase ending tokens others) ∨
    (tokens = [] ∧ blocks = [[]] ∧ token.isAny = true ∧ ending.pathEnds = true) := by
  constructor
  · rintro (_ | ⟨takes, rest⟩ | ⟨isAny, ends⟩)
    · exact .inl ⟨_, _, rfl, takes, rest⟩
    · exact .inr ⟨rfl, rfl, isAny, ends⟩
  · rintro (⟨block, others, rfl, takes, rest⟩ | ⟨rfl, rfl, isAny, ends⟩)
    · exact .next takes rest
    · exact .last isAny ends

/-- Tokens and texts align exactly if the texts can be cut into blocks that do. -/
theorem aligned_iff_exists_fits : Aligned ignoreCase ending tokens path ↔
    ∃ blocks, Fits ignoreCase ending tokens blocks ∧ blocks.flatten = path := by
  induction tokens generalizing path with
  | nil =>
      rw [aligned_nil_iff]
      constructor
      · rintro ⟨rfl, agrees⟩
        exact ⟨[], .done agrees, rfl⟩
      · rintro ⟨blocks, fits, rfl⟩
        obtain ⟨rfl, agrees⟩ := fits_nil_iff.mp fits
        exact ⟨rfl, agrees⟩
  | cons token tokens ih =>
      rw [aligned_cons_iff]
      constructor
      · rintro (⟨block, rest, rfl, takes, aligned⟩ | ⟨rfl, rfl, isAny, ends⟩)
        · obtain ⟨blocks, fits, rfl⟩ := ih.mp aligned
          exact ⟨block :: blocks, .next takes fits, rfl⟩
        · exact ⟨[[]], .last isAny ends, rfl⟩
      · rintro ⟨blocks, fits, rfl⟩
        obtain ⟨block, rest, rfl, takes, fits⟩ | ⟨rfl, rfl, isAny, ends⟩ := fits_cons_iff.mp fits
        · exact .inl ⟨block, rest.flatten, rfl, takes, ih.mpr ⟨rest, fits, rfl⟩⟩
        · exact .inr ⟨rfl, rfl, isAny, ends⟩

theorem captures_eq_groupsOf (program : Regex.Program) (names : List (List Char))
    (marks : List Regex.Mark) :
    Segment.captures program names marks = groupsOf program marks 0 names := by
  suffices ∀ index, (names.zipIdx index).filterMap (fun placed =>
      (program.named? marks (groupName placed.2)).map (placed.1, ·)) =
        groupsOf program marks index names from this 0
  induction names with
  | nil => exact fun _ => rfl
  | cons name names ih =>
      intro index
      rw [List.zipIdx_cons, List.filterMap_cons, ih, groupsOf]
      simp only [Regex.Program.named?]
      rcases Regex.groupNamed? (groupName index) program.expression with _ | number
      · rfl
      · simp only [Option.bind_some]
        cases Regex.captured? marks number <;> rfl

/-- A token captures what its segment captures. -/
theorem captured_of_capture? {segment : Segment} {text : List Char} {own : Captures}
    (h : segment.capture? ignoreCase text = some own) :
    (Token.one (.ok segment)).captured [text] = own := by
  cases segment with
  | any =>
      cases h
      rfl
  | literal expected =>
      rw [Segment.capture?] at h
      split_ifs at h <;> cases h <;> rfl
  | pattern program names =>
      obtain ⟨marks, found, rfl⟩ := Option.map_eq_some_iff.mp h
      rw [Regex.Program.search?] at found
      rw [captures_eq_groupsOf, Token.captured, found]

/-- Of blocks that align the walk finds some. -/
theorem walk_of_fits (h : Fits ignoreCase ending tokens blocks) :
    ∃ captures, walk ignoreCase ending tokens blocks.flatten = .ok (some captures) :=
  walk_of_aligned (aligned_iff_exists_fits.mpr ⟨blocks, h, rfl⟩)

/-! ## The alignment that is found -/

/-- The blocks align with tokens and path, the captures are theirs, and in every other alignment
the spreads take more, compared from left to right. -/
structure IsLeast (ignoreCase : Bool) (ending : Ending) (tokens : List Token)
    (path : List (List Char)) (blocks : List (List (List Char))) : Prop where
  fits : Fits ignoreCase ending tokens blocks
  flatten : blocks.flatten = path
  least : ∀ others, Fits ignoreCase ending tokens others → others.flatten = path →
    others = blocks ∨ absorbed tokens blocks < absorbed tokens others

namespace IsLeast

theorem nil (agrees : ending.agrees = true) : IsLeast ignoreCase ending [] [] [] where
  fits := .done agrees
  flatten := rfl
  least _ fits _ := .inl (fits_nil_iff.mp fits).1

/-- A spread that skips the fewest texts after which the others find a place. -/
theorem spread {skipped rest : List (List Char)} (h : IsLeast ignoreCase ending tokens rest blocks)
    (before : ∀ earlier later, skipped ++ rest = earlier ++ later →
      earlier.length < skipped.length → walk ignoreCase ending tokens later = .ok none) :
    IsLeast ignoreCase ending (.spread :: tokens) (skipped ++ rest) (skipped :: blocks) where
  fits := .next trivial h.fits
  flatten := by rw [List.flatten_cons, h.flatten]
  least := by
    intro all fits flatten
    obtain ⟨block, others, rfl, _, further⟩ | ⟨_, _, isAny, _⟩ := fits_cons_iff.mp fits
    · rw [List.flatten_cons] at flatten
      obtain less | same | more := Nat.lt_trichotomy block.length skipped.length
      · -- The walk would have come upon these blocks before.
        obtain ⟨captures, found⟩ := walk_of_fits further
        rw [before block others.flatten flatten.symm less] at found
        cases found
      · obtain ⟨rfl, tail⟩ := List.append_inj flatten same
        obtain rfl | less := h.least others further tail
        · exact .inl rfl
        · exact .inr (List.cons_lt_cons_iff.mpr (.inr ⟨rfl, less⟩))
      · exact .inr (List.cons_lt_cons_iff.mpr (.inl more))
    · cases isAny

/-- A token for one text takes the next one. -/
theorem one {segment : Segment} {text : List Char}
    (accepts : segment.accepts ignoreCase text = true)
    (h : IsLeast ignoreCase ending tokens path blocks) :
    IsLeast ignoreCase ending (.one (.ok segment) :: tokens) (text :: path) ([text] :: blocks) where
  fits := .next ⟨segment, text, rfl, rfl, accepts⟩ h.fits
  flatten := by rw [List.flatten_cons, h.flatten, List.singleton_append]
  least := by
    intro all fits flatten
    obtain ⟨block, others, rfl, takes, further⟩ | ⟨_, rfl, _, _⟩ := fits_cons_iff.mp fits
    · obtain ⟨_, other, _, rfl, _⟩ := takes
      obtain ⟨rfl, tail⟩ := List.cons.inj flatten
      obtain rfl | less := h.least others further tail
      · exact .inl rfl
      · exact .inr less
    · cases flatten

/-- A lone asterisk at the end takes nothing where nothing is left. -/
theorem last {compiled : Except Fault Segment} (isAny : (Token.one compiled).isAny = true)
    (ends : ending.pathEnds = true) :
    IsLeast ignoreCase ending [.one compiled] [] [[]] where
  fits := .last isAny ends
  flatten := rfl
  least := by
    intro all fits flatten
    obtain ⟨block, others, rfl, takes, _⟩ | ⟨_, rfl, _, _⟩ := fits_cons_iff.mp fits
    · obtain ⟨_, text, _, rfl, _⟩ := takes
      cases flatten
    · exact .inl rfl

end IsLeast

theorem walk_one_cons_eq_some_iff {segment : Segment} {text : List Char} {captures : Captures} :
    walk ignoreCase ending (.one (.ok segment) :: tokens) (text :: path) = .ok (some captures) ↔
      ∃ own others, segment.capture? ignoreCase text = some own ∧
        walk ignoreCase ending tokens path = .ok (some others) ∧ captures = own ++ others := by
  rw [walk_one_cons]
  cases segment.capture? ignoreCase text with
  | none => simp
  | some own =>
      rcases walk ignoreCase ending tokens path with fault | _ | others
      · simp [Except.map]
      · simp [Except.map]
      · simp [Except.map, eq_comm]

/-- What the walk returns are the captures of the alignment in which the spreads take least. -/
theorem exists_isLeast_of_walk {captures : Captures}
    (h : walk ignoreCase ending tokens path = .ok (some captures)) :
    ∃ blocks, IsLeast ignoreCase ending tokens path blocks ∧
      captured tokens blocks = captures := by
  induction tokens generalizing path captures with
  | nil =>
      obtain ⟨rfl, agrees⟩ := walk_nil_eq_some_iff.mp ⟨captures, h⟩
      rw [walk, if_pos agrees] at h
      cases h
      exact ⟨[], .nil agrees, rfl⟩
  | cons token tokens ih =>
      cases token with
      | spread =>
          rw [walk_spread] at h
          obtain ⟨skipped, rest, rfl, found, before⟩ := eq_none_before_firstTail h
          obtain ⟨blocks, least, own⟩ := ih found
          exact ⟨skipped :: blocks, least.spread before, own⟩
      | one compiled =>
          cases path with
          | nil =>
              obtain ⟨rfl, isAny, ends⟩ := walk_one_nil_eq_some_iff.mp ⟨captures, h⟩
              obtain rfl : [] = captures := by simpa [walk, isAny, ends] using h
              obtain rfl := AntMatcher.isAny_one_iff.mp isAny
              exact ⟨[[]], .last isAny ends, rfl⟩
          | cons text path =>
              cases compiled with
              | error fault => cases h
              | ok segment =>
                  obtain ⟨own, others, taken, found, rfl⟩ := walk_one_cons_eq_some_iff.mp h
                  obtain ⟨blocks, least, rfl⟩ := ih found
                  refine ⟨[text] :: blocks, least.one (by simp [Segment.accepts, taken]), ?_⟩
                  rw [captured, captured_of_capture? taken]

end Interception.Ant

namespace Interception.AntMatcher

open Ant

variable {m : AntMatcher} {pattern path : List Char}

/-! ## Variables by name -/

/-- The tokens of a pattern, compiled. -/
def patternTokens (m : AntMatcher) (pattern : List Char) : List Token :=
  (m.tokens pattern).map (Token.ofText m.compile)

/-- The blocks align the tokens of the pattern with those of the path. -/
structure IsAlignment (m : AntMatcher) (pattern path : List Char)
    (blocks : List (List (List Char))) : Prop where
  begins : Text.startsWith m.separator pattern = Text.startsWith m.separator path
  flatten : blocks.flatten = m.tokens path
  fits : Fits (!m.caseSensitive) (m.ending pattern path) (m.patternTokens pattern) blocks

/-- What the tokens of the pattern capture from their blocks, in order. -/
def capturedBy (m : AntMatcher) (pattern : List Char) (blocks : List (List (List Char))) :
    Captures :=
  captured (m.patternTokens pattern) blocks

/-- How many path tokens each `**` of the pattern takes, from left to right. -/
def absorbedBy (m : AntMatcher) (pattern : List Char) (blocks : List (List (List Char))) :
    List Nat :=
  absorbed (m.patternTokens pattern) blocks

theorem exists_isAlignment_of_capture {captures : Captures}
    (h : m.capture pattern path = .ok (some captures)) :
    ∃ blocks, m.IsAlignment pattern path blocks ∧ m.capturedBy pattern blocks = captures ∧
      ∀ others, m.IsAlignment pattern path others →
        others = blocks ∨ m.absorbedBy pattern blocks < m.absorbedBy pattern others := by
  by_cases begins : Text.startsWith m.separator pattern = Text.startsWith m.separator path
  · rw [capture_eq_walk begins] at h
    obtain ⟨blocks, least, own⟩ := exists_isLeast_of_walk h
    refine ⟨blocks, ⟨begins, least.flatten, least.fits⟩, own, ?_⟩
    intro others alignment
    exact least.least others alignment.fits alignment.flatten
  · rw [capture_of_startsWith_ne begins] at h
    cases h

/-- A fault is never reported as a path that does not match. -/
theorem faultIn_ne_noMatch (fault : Fault) (text other : String) :
    m.faultIn pattern fault ≠ .noMatch text other := by
  cases fault with
  | unclosedVariable => nofun
  | invalidRegex source => nofun

/-- The value of a variable is what was captured for its name last. -/
theorem get?_extract {captures : Captures} {vars : Dict String}
    (h : m.capture pattern path = .ok (some captures)) (own : m.extract pattern path = .ok vars)
    (name value : List Char) :
    vars.get? (String.ofList name) = some (String.ofList value) ↔
      ∃ earlier later, captures = earlier ++ (name, value) :: later ∧
        ∀ pair ∈ later, pair.1 ≠ name := by
  rw [extract_of_capture h] at own
  cases own
  rw [Dict.get?_ofList_eq_some_iff]
  constructor
  · rintro ⟨earlier, later, split, others⟩
    obtain ⟨earlier, rest, rfl, rfl, further⟩ := List.map_eq_append_iff.mp split
    obtain ⟨⟨name', value'⟩, later, rfl, same, rfl⟩ := List.map_eq_cons_iff.mp further
    obtain ⟨sameName, sameValue⟩ := Prod.mk.inj same
    obtain rfl := String.ofList_inj.mp sameName
    obtain rfl := String.ofList_inj.mp sameValue
    refine ⟨earlier, later, rfl, ?_⟩
    intro pair mem eq
    exact others _ (List.mem_map_of_mem mem) (congrArg String.ofList eq)
  · rintro ⟨earlier, later, rfl, others⟩
    refine ⟨_, _, List.map_append, ?_⟩
    intro e mem
    obtain ⟨pair, own, rfl⟩ := List.mem_map.mp mem
    exact fun eq => others pair own (String.ofList_inj.mp eq)

/-- What is extracted was captured. -/
theorem exists_capture_of_extract {vars : Dict String} (h : m.extract pattern path = .ok vars) :
    ∃ captures, m.capture pattern path = .ok (some captures) := by
  rcases found : m.capture pattern path with fault | _ | captures
  · rw [extract_of_capture_error found] at h
    cases h
  · rw [extract_of_capture_none found] at h
    cases h
  · exact ⟨captures, rfl⟩

/-- Where no two captures have one name, each is the value of its variable. -/
theorem get?_extract_of_mem {captures : Captures} {vars : Dict String}
    (h : m.capture pattern path = .ok (some captures)) (own : m.extract pattern path = .ok vars)
    (distinct : (captures.map Prod.fst).Nodup) {name value : List Char}
    (mem : (name, value) ∈ captures) :
    vars.get? (String.ofList name) = some (String.ofList value) := by
  obtain ⟨earlier, later, split⟩ := List.append_of_mem mem
  refine (get?_extract h own name value).mpr ⟨earlier, later, split, ?_⟩
  intro pair found eq
  rw [split, List.map_append, List.map_cons] at distinct
  have once := (List.nodup_cons.mp (List.nodup_append.mp distinct).2.1).1
  exact once (List.mem_map.mpr ⟨pair, found, eq⟩)

/-- Extraction succeeds exactly where the pattern matches, and fails exactly where it does not or
where matching fails, then in the same way. The variables are those of one alignment of pattern and
path, in order, where of several captures for one name the last counts. In every other alignment the
`**` of the pattern take more of the path, compared from left to right. -/
theorem extract_alignment (m : AntMatcher) (pattern path : List Char) :
    ((∃ vars, m.extract pattern path = .ok vars) ↔ m.isMatch pattern path = .ok true) ∧
    (m.extract pattern path = .error (.noMatch (String.ofList pattern) (String.ofList path)) ↔
      m.isMatch pattern path = .ok false) ∧
    (∀ e, m.isMatch pattern path = .error e → m.extract pattern path = .error e) ∧
    (∀ vars, m.extract pattern path = .ok vars → ∃ blocks, m.IsAlignment pattern path blocks ∧
      (∀ others, m.IsAlignment pattern path others → others ≠ blocks →
        m.absorbedBy pattern blocks < m.absorbedBy pattern others) ∧
      ∀ name value, vars.get? (String.ofList name) = some (String.ofList value) ↔
        ∃ earlier later, m.capturedBy pattern blocks = earlier ++ (name, value) :: later ∧
          ∀ pair ∈ later, pair.1 ≠ name) := by
  rcases h : m.capture pattern path with fault | _ | captures
  · rw [extract_of_capture_error h, isMatch_of_capture_error h]
    refine ⟨by simp, ?_, ?_, by simp⟩
    · simp [faultIn_ne_noMatch]
    · intro e failed
      rw [Except.error.inj failed]
  · rw [extract_of_capture_none h, isMatch_of_capture h]
    simp
  · have own := extract_of_capture h
    obtain ⟨blocks, alignment, rfl, least⟩ := exists_isAlignment_of_capture h
    rw [own, isMatch_of_capture h]
    refine ⟨by simp, by simp, by simp, ?_⟩
    rintro vars ⟨⟩
    refine ⟨blocks, alignment, ?_, ?_⟩
    · intro others alignment' ne
      exact (least others alignment').resolve_left ne
    · intro name value
      exact get?_extract h own name value

end Interception.AntMatcher
