import Interception.Proofs.Ant.Decomposition

/-!
# URI templates

A URI template is a token of a pattern that is made of characters that stand for themselves and of
variables without a constraint. Reading it gives its parts back, and where its regular expression is
not too large, it accepts exactly the texts that come of it when every variable is replaced by some
text without a line feed. These texts are what the variables capture.
-/

namespace Interception.Ant

/-! ## Parts -/

/-- A part of a template: a character, or a variable by its name. -/
inductive Part where
  | char (c : Char)
  | placeholder (name : List Char)
  deriving DecidableEq, Repr

namespace Part

/-- The text that writes the part in a pattern. -/
def writing : Part → List Char
  | char c => [c]
  | placeholder name => '\x7b' :: (name ++ ['\x7d'])

/-- The text that the part stands for, when every variable has a value. -/
def filled (values : List Char → List Char) : Part → List Char
  | char c => [c]
  | placeholder name => values name

/-- Whether the part writes itself: a character that is no sign, or a name without a colon, in which
braces are balanced. -/
def IsPlain : Part → Prop
  | char c => c ≠ '\x7b' ∧ c ≠ '*' ∧ c ≠ '?'
  | placeholder name => balancedFrom 0 name = true ∧ ':' ∉ name

instance (part : Part) : Decidable part.IsPlain := by
  cases part <;> unfold IsPlain <;> infer_instance

/-- The element of a token that the part is. -/
def element : Part → Element
  | char c => .text c
  | placeholder name => .placeholder name none

/-- The sign of a glob that the part is. -/
def sign : Part → Glob.Sign
  | char c => .char c
  | placeholder _ => .variable

/-- Whether the part takes a text: a character itself, a variable one without a line feed. -/
def Takes : Part → List Char → Prop
  | char c, text => text = [c]
  | placeholder _, text => '\n' ∉ text

/-- What the part captures from its text. -/
def captured : Part → List Char → Captures
  | char _, _ => []
  | placeholder name, text => [(name, text)]

end Part

/-- The token that a row of parts writes. -/
def writing (row : List Part) : List Char := row.flatMap Part.writing

/-- The text that comes of a row of parts when every variable is replaced by its value. -/
def fill (values : List Char → List Char) (row : List Part) : List Char :=
  row.flatMap (Part.filled values)

/-- The names of the variables, in order. -/
def names : List Part → List (List Char)
  | [] => []
  | .char _ :: row => names row
  | .placeholder name :: row => name :: names row

variable {row : List Part}

theorem writing_eq_nil_iff : writing row = [] ↔ row = [] := by
  cases row with
  | nil => simp [writing]
  | cons part row => cases part <;> simp [writing, Part.writing]

theorem names_append (row more : List Part) : names (row ++ more) = names row ++ names more := by
  induction row with
  | nil => rfl
  | cons part row ih =>
      cases part with
      | char c => exact ih
      | placeholder name => exact congrArg (name :: ·) ih

theorem writing_append (row more : List Part) :
    writing (row ++ more) = writing row ++ writing more :=
  List.flatMap_append

theorem writing_chars (chars : List Char) : writing (chars.map Part.char) = chars := by
  induction chars with
  | nil => rfl
  | cons c chars ih => exact congrArg (c :: ·) ih

theorem names_chars (chars : List Char) : names (chars.map Part.char) = [] := by
  induction chars with
  | nil => rfl
  | cons c chars ih => exact ih

/-! ## Reading -/

variable {ignoreCase : Bool} {segment : Segment} {text : List Char}

/-- A token of parts is written by their elements. -/
theorem writes_elements (plain : ∀ part ∈ row, part.IsPlain) :
    Writes (row.map Part.element) (writing row) := by
  induction row with
  | nil => exact .nil
  | cons part row ih =>
      obtain ⟨own, others⟩ := List.forall_mem_cons.mp plain
      cases part with
      | char c => exact .cons own (ih others)
      | placeholder name => exact .cons own (ih others)

theorem map_sign_elements (row : List Part) :
    (row.map Part.element).map Element.sign = row.map Part.sign := by
  rw [List.map_map]
  refine List.map_congr_left fun part _ => ?_
  cases part <;> rfl

theorem variableNames_elements (row : List Part) :
    variableNames (row.map Part.element) = names row := by
  induction row with
  | nil => rfl
  | cons part row ih =>
      cases part with
      | char c => exact ih
      | placeholder name => exact congrArg (name :: ·) ih

theorem not_isConstrained_elements (row : List Part) :
    ∀ element ∈ row.map Part.element, element.isConstrained = false := by
  intro element mem
  obtain ⟨part, _, rfl⟩ := List.mem_map.mp mem
  cases part <;> rfl

/-! ## Matching -/

/-- What the parts capture from their texts, in order. -/
def capturedFrom : List Part → List (List Char) → Captures
  | part :: row, text :: texts => part.captured text ++ capturedFrom row texts
  | _, _ => []

theorem takes_element_iff {part : Part} : part.element.Takes text ↔ part.Takes text := by
  cases part <;> rfl

theorem decomposes_elements_iff {texts : List (List Char)} :
    Decomposes (row.map Part.element) text texts ↔
      List.Forall₂ Part.Takes row texts ∧ texts.flatten = text := by
  have takes : List.Forall₂ Element.Takes (row.map Part.element) texts ↔
      List.Forall₂ Part.Takes row texts := by
    simp only [List.forall₂_map_left_iff, takes_element_iff]
  constructor
  · rintro ⟨own, whole⟩
    exact ⟨takes.mp own, whole⟩
  · rintro ⟨own, whole⟩
    exact ⟨takes.mpr own, whole⟩

theorem capturedFrom_elements (row : List Part) (texts : List (List Char)) :
    Element.capturedFrom (row.map Part.element) texts = capturedFrom row texts := by
  induction row generalizing texts with
  | nil => rfl
  | cons part row ih =>
      cases texts with
      | nil => cases part <;> rfl
      | cons text texts =>
          cases part with
          | char c => exact ih texts
          | placeholder name => exact congrArg ((name, text) :: ·) (ih texts)

/-- No asterisk is at the beginning of a template. -/
theorem writing_ne_star_cons (plain : ∀ part ∈ row, part.IsPlain) (rest : List Char) :
    writing row ≠ '*' :: rest := by
  intro eq
  cases row with
  | nil => cases eq
  | cons part row =>
      have own := plain part List.mem_cons_self
      cases part with
      | char c => exact own.2.1 (List.cons.inj eq).1
      | placeholder name => cases (List.cons.inj eq).1

theorem compile_of_isTemplate (plain : ∀ part ∈ row, part.IsPlain)
    (h : isTemplate (writing row) = true) :
    Segment.compile ignoreCase (writing row) =
      if (globRegex ignoreCase (row.map Part.sign)).fits then
        .ok (.pattern (.ofRegex (globRegex ignoreCase (row.map Part.sign))) (names row))
      else .error (.invalidRegex (sourceText (row.map Part.element))) := by
  rw [compile_of_writes (writes_elements plain) (not_isConstrained_elements row)
    (writing_ne_star_cons plain []) h, map_sign_elements, variableNames_elements]

theorem compile_of_not_isTemplate (plain : ∀ part ∈ row, part.IsPlain)
    (h : isTemplate (writing row) = false) :
    Segment.compile ignoreCase (writing row) = .ok (.literal (writing row)) := by
  rw [Segment.compile, if_neg (writing_ne_star_cons plain []), h]
  rfl

/-- A compiled template accepts only texts that can be cut into one text for each part that the part
takes, and captures what they capture. -/
theorem exists_texts_of_capture {own : Captures} (plain : ∀ part ∈ row, part.IsPlain)
    (compiled : Segment.compile false (writing row) = .ok segment)
    (taken : segment.capture? false text = some own) :
    ∃ texts, List.Forall₂ Part.Takes row texts ∧ texts.flatten = text ∧
      capturedFrom row texts = own := by
  obtain ⟨texts, longest, captures⟩ := exists_isLongest_of_capture (writes_elements plain)
    (not_isConstrained_elements row) (writing_ne_star_cons plain []) compiled taken
  obtain ⟨takes, flatten⟩ := decomposes_elements_iff.mp longest.toDecomposes
  exact ⟨texts, takes, flatten, capturedFrom_elements row texts ▸ captures⟩

/-- A compiled template accepts every text that is put together from texts that its parts take. -/
theorem exists_capture_of_texts {texts : List (List Char)} (plain : ∀ part ∈ row, part.IsPlain)
    (compiled : Segment.compile false (writing row) = .ok segment)
    (takes : List.Forall₂ Part.Takes row texts) :
    ∃ own, segment.capture? false texts.flatten = some own :=
  exists_capture_of_decomposes (writes_elements plain) (not_isConstrained_elements row)
    (writing_ne_star_cons plain []) compiled (decomposes_elements_iff.mpr ⟨takes, rfl⟩)

/-! ## Size -/

/-- Whether the regular expression of a template is small enough. Without variables there is
none. -/
def IsSmall (row : List Part) : Prop :=
  names row ≠ [] → (globRegex false (row.map Part.sign)).fits = true

instance (row : List Part) : Decidable (IsSmall row) :=
  inferInstanceAs (Decidable (names row ≠ [] → (globRegex false (row.map Part.sign)).fits = true))

theorem isTemplate_writing (plain : ∀ part ∈ row, part.IsPlain) :
    isTemplate (writing row) = true ↔ names row ≠ [] := by
  induction row with
  | nil => simp [isTemplate, writing, names]
  | cons part row ih =>
      obtain ⟨own, others⟩ := List.forall_mem_cons.mp plain
      cases part with
      | char c =>
          obtain ⟨brace, star, mark⟩ := own
          have token : writing (.char c :: row) = c :: writing row := rfl
          rw [token, isTemplate, List.any_cons, ← isTemplate, names, ← ih others]
          simp [brace, star, mark]
      | placeholder name => simp [isTemplate, writing, Part.writing, names]

theorem compile_of_isSmall (plain : ∀ part ∈ row, part.IsPlain) (small : IsSmall row) :
    ∃ segment, Segment.compile false (writing row) = .ok segment := by
  cases h : isTemplate (writing row) with
  | true =>
      rw [compile_of_isTemplate plain h, if_pos (small ((isTemplate_writing plain).mp h))]
      exact ⟨_, rfl⟩
  | false => exact ⟨_, compile_of_not_isTemplate plain h⟩

theorem compile_of_not_isSmall (plain : ∀ part ∈ row, part.IsPlain) (large : ¬ IsSmall row) :
    Segment.compile false (writing row) =
      .error (.invalidRegex (sourceText (row.map Part.element))) := by
  obtain ⟨named, unfit⟩ := Classical.not_imp.mp large
  rw [compile_of_isTemplate plain ((isTemplate_writing plain).mpr named), if_neg unfit]

section Large

open Regex

variable {chars : List Char}

/-- Neighbouring letters are one literal, which ends where a variable stands. -/
theorem joinLiterals_letters (ne : chars ≠ []) (index : Nat) (name : Option String) (r : Regex)
    (rest : List Regex) :
    joinLiterals (chars.map (fun c => .literal [c]) ++ .group index name r :: rest) =
      .literal chars :: joinLiterals (.group index name r :: rest) := by
  induction chars with
  | nil => exact absurd rfl ne
  | cons c chars ih =>
      cases chars with
      | nil => rfl
      | cons d chars =>
          rw [List.map_cons, List.cons_append, joinLiterals, ih (List.cons_ne_nil d chars)]
          rfl

theorem flatMap_parts_signRegexes (chars : List Char) (index : Nat) (signs : List Glob.Sign) :
    (signRegexes false index (chars.map Glob.Sign.char ++ .variable :: signs)).flatMap parts =
      chars.map (fun c => .literal [c]) ++
        .group (index + 1) (some (groupName index)) (repetition (.set .notLineFeed) 0 none true) ::
          (signRegexes false (index + 1) signs).flatMap parts := by
  induction chars with
  | nil => rfl
  | cons c chars ih => exact congrArg (.literal [c] :: ·) ih

/-- Each byte of a literal takes a state. -/
theorem count?_literal_of_large
    (large : Footprint.limit < 32 * (chars.flatMap String.utf8EncodeChar).length)
    (direction : Footprint.Direction) (branch : Footprint.Branch) (f : Footprint) :
    (Regex.literal chars).count? direction branch f = none := by
  have refused : f.add? (chars.flatMap String.utf8EncodeChar).length 0 = none := by
    rw [Footprint.add?, if_neg]
    simp only [Footprint.bytes]
    omega
  rw [Regex.count?, refused]
  rfl

/-- The regular expression of a text in front of a variable begins with the text as one literal. -/
theorem exists_globRegex_eq (ne : chars ≠ []) (signs : List Glob.Sign) :
    ∃ rest, globRegex false (chars.map Glob.Sign.char ++ .variable :: signs) =
      .seq (.anchor .textStart) (.seq (.literal chars) rest) := by
  rw [globRegex, concat, List.cons_append, List.flatMap_cons, List.flatMap_append,
    flatMap_parts_signRegexes, List.append_assoc, parts, List.singleton_append, joinLiterals,
    List.cons_append, joinLiterals_letters ne, joinLiterals]
  · exact ⟨_, rfl⟩
  all_goals simp

/-- The states of a long text in front of a variable are too many. -/
theorem not_isSmall_of_large
    (large : Footprint.limit < 32 * (chars.flatMap String.utf8EncodeChar).length)
    (name : List Char) (row : List Part) :
    ¬ IsSmall (chars.map Part.char ++ .placeholder name :: row) := by
  intro small
  have ne : chars ≠ [] := by
    rintro rfl
    simp at large
  have named : names (chars.map Part.char ++ .placeholder name :: row) ≠ [] := by
    rw [names_append]
    exact List.append_ne_nil_of_right_ne_nil _ (List.cons_ne_nil name _)
  have signs : (chars.map Part.char ++ .placeholder name :: row).map Part.sign =
      chars.map Glob.Sign.char ++ .variable :: row.map Part.sign := by
    rw [List.map_append, List.map_map]
    rfl
  obtain ⟨rest, regex⟩ := exists_globRegex_eq ne (row.map Part.sign)
  have behind : (Regex.seq (.literal chars) rest).count? .forwards .whole = fun _ => none := by
    funext f
    rw [Regex.count?, count?_literal_of_large large]
    rfl
  have whole (f : Footprint) :
      (Regex.seq (.anchor .textStart) (.seq (.literal chars) rest)).count? .forwards .whole f =
        none := by
    rw [Regex.count?, behind]
    simp
  have refused : (Regex.seq (.anchor .textStart) (.seq (.literal chars) rest)).total? .forwards =
      none := by
    simp [Regex.total?, whole]
  have fit := small named
  rw [signs, regex, fits, refused] at fit
  cases fit

end Large

/-! ## Filling in -/

/-- A character that a template does not write and no value has in it is not in what comes of it. -/
theorem notMem_fill {c : Char} {values : List Char → List Char} (unwritten : c ∉ writing row)
    (absent : ∀ name ∈ names row, c ∉ values name) : c ∉ fill values row := by
  induction row with
  | nil => exact List.not_mem_nil
  | cons part row ih =>
      obtain ⟨here, there⟩ := not_or.mp (List.mem_append.not.mp unwritten)
      cases part with
      | char x => exact List.mem_append.not.mpr (not_or.mpr ⟨here, ih there absent⟩)
      | placeholder name =>
          obtain ⟨own, others⟩ := List.forall_mem_cons.mp absent
          exact List.mem_append.not.mpr (not_or.mpr ⟨own, ih there others⟩)

theorem map_fst_capturedFrom {texts : List (List Char)}
    (takes : List.Forall₂ Part.Takes row texts) :
    (capturedFrom row texts).map Prod.fst = names row := by
  induction takes with
  | nil => rfl
  | @cons part text row texts own others ih =>
      cases part with
      | char c => exact ih
      | placeholder name => exact congrArg (name :: ·) ih

/-- Values that agree with the captures put the text together again. -/
theorem flatten_eq_fill {texts : List (List Char)} {values : List Char → List Char}
    (takes : List.Forall₂ Part.Takes row texts)
    (agree : ∀ pair ∈ capturedFrom row texts, values pair.1 = pair.2) :
    texts.flatten = fill values row := by
  induction takes with
  | nil => rfl
  | @cons part text row texts own others ih =>
      have split : fill values (part :: row) = part.filled values ++ fill values row := rfl
      rw [List.flatten_cons, split]
      cases part with
      | char c =>
          obtain rfl := own
          rw [ih agree]
          rfl
      | placeholder name =>
          obtain ⟨here, there⟩ := List.forall_mem_cons.mp agree
          rw [ih there]
          exact congrArg (· ++ fill values row) here.symm

/-- Values without line feeds are taken. -/
theorem takes_filled {values : List Char → List Char}
    (plain : ∀ name ∈ names row, '\n' ∉ values name) :
    List.Forall₂ Part.Takes row (row.map (Part.filled values)) := by
  induction row with
  | nil => exact .nil
  | cons part row ih =>
      cases part with
      | char c => exact .cons rfl (ih plain)
      | placeholder name =>
          obtain ⟨own, others⟩ := List.forall_mem_cons.mp plain
          exact .cons own (ih others)

end Interception.Ant
