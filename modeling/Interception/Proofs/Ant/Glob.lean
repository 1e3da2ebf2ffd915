import Interception.Ant.Source
import Interception.Proofs.Regex.Row
import Mathlib.Data.List.Forall2
import Mathlib.Data.List.Lex

/-!
# What globs match

A token without constraints is a row of signs: characters, `?` for one character, `*` for a run of
characters, and variables, which capture a run. No sign but a character itself stands for a line
feed. Such a glob matches a text if the text can be cut into consecutive parts, one for each sign.

A text can often be cut in more than one way. A match chooses the cut whose first run is the longest,
among these the one whose second run is, and so on: the lengths of its runs are the greatest in
lexicographic order.
-/

namespace Interception.Ant

open Regex

/-! ## The lengths of runs -/

section RunLengths

variable {α : Type} {isRun : α → Bool}

/-- The lengths of the parts that runs take, in order. -/
def runLengths (isRun : α → Bool) : List α → List (List Char) → List Nat
  | item :: row, part :: parts =>
    if isRun item then part.length :: runLengths isRun row parts else runLengths isRun row parts
  | _, _ => []

theorem runLengths_map {β : Type} (f : β → α) (row : List β) (parts : List (List Char)) :
    runLengths isRun (row.map f) parts = runLengths (isRun ∘ f) row parts := by
  induction row generalizing parts with
  | nil => rfl
  | cons item row ih =>
      cases parts with
      | nil => rfl
      | cons part parts => simp only [List.map_cons, runLengths, ih, Function.comp_apply]

end RunLengths

namespace Glob

inductive Sign where
  | char (c : Char)
  | anyChar
  | anyRun
  | variable
  deriving DecidableEq, Repr

/-- The character that no run and no `?` takes. -/
def isBreak (c : Char) : Bool := c == '\n'

/-! ## Cuts -/

/-- Whether a sign takes a part of a text. -/
def Sign.Takes (ignoreCase : Bool) : Sign → List Char → Prop
  | .char c, part => ∃ x, part = [x] ∧ standsFor ignoreCase c x = true
  | .anyChar, part => ∃ x, part = [x] ∧ isBreak x = false
  | .anyRun, part => ∀ x ∈ part, isBreak x = false
  | .variable, part => ∀ x ∈ part, isBreak x = false

/-- Whether a sign stands for a run of characters. -/
def Sign.isRun : Sign → Bool
  | .char _ | .anyChar => false
  | .anyRun | .variable => true

/-- The parts that the variables among the signs take, in order. -/
def valuesOf : List Sign → List (List Char) → List (List Char)
  | .variable :: signs, part :: parts => part :: valuesOf signs parts
  | _ :: signs, _ :: parts => valuesOf signs parts
  | _, _ => []

/-- The text is cut into parts that the signs take. -/
structure Cut (ignoreCase : Bool) (signs : List Sign) (text : List Char)
    (parts : List (List Char)) : Prop where
  takes : List.Forall₂ (Sign.Takes ignoreCase) signs parts
  whole : parts.flatten = text

/-- The cut is chosen: any other one has runs of lesser lengths. -/
structure IsGreedy (ignoreCase : Bool) (signs : List Sign) (text : List Char)
    (parts : List (List Char)) : Prop extends Cut ignoreCase signs text parts where
  greatest : ∀ others, Cut ignoreCase signs text others → others ≠ parts →
    runLengths Sign.isRun signs others < runLengths Sign.isRun signs parts

variable {ignoreCase : Bool} {sign : Sign} {signs : List Sign} {text : List Char}
variable {parts : List (List Char)}

theorem cut_nil_iff : Cut ignoreCase [] text parts ↔ parts = [] ∧ text = [] := by
  constructor
  · rintro ⟨takes, whole⟩
    obtain rfl := List.forall₂_nil_left_iff.mp takes
    exact ⟨rfl, whole.symm⟩
  · rintro ⟨rfl, rfl⟩
    exact ⟨.nil, rfl⟩

theorem cut_cons_iff : Cut ignoreCase (sign :: signs) text parts ↔
    ∃ part others tail, parts = part :: others ∧ text = part ++ tail ∧
      sign.Takes ignoreCase part ∧ Cut ignoreCase signs tail others := by
  constructor
  · rintro ⟨takes, rfl⟩
    obtain ⟨part, others, own, rest, rfl⟩ := List.forall₂_cons_left_iff.mp takes
    exact ⟨part, others, _, rfl, List.flatten_cons, own, rest, rfl⟩
  · rintro ⟨part, others, tail, rfl, rfl, own, rest, rfl⟩
    exact ⟨.cons own rest, List.flatten_cons⟩

theorem Cut.length_valuesOf (cut : Cut ignoreCase signs text parts) :
    (valuesOf signs parts).length = signs.count .variable := by
  obtain ⟨takes, -⟩ := cut
  induction takes with
  | nil => rfl
  | @cons sign part signs parts _ _ ih => cases sign <;> simp [valuesOf, ih]

/-! ## Runs -/

section Runs

variable {β : Type} {p : Char → Bool} {k : Cursor → Option β} {c : Cursor} {result : β}

/-- What is found after one character is found from the place behind it. -/
theorem afterOne_eq_some_iff : afterOne p k c = some result ↔
    ∃ x later, c.rest = x :: later.rest ∧ c.next? = some (x, later) ∧ p x = true ∧
      k later = some result := by
  cases ahead : c.next? with
  | none => simp [afterOne_of_atEnd ahead]
  | some next =>
      obtain ⟨x, later⟩ := next
      have split := Cursor.rest_of_next? ahead
      rw [afterOne_of_next? ahead]
      split_ifs with pass
      · constructor
        · exact fun found => ⟨x, later, split, rfl, pass, found⟩
        · rintro ⟨_, _, _, same, _, found⟩
          obtain ⟨rfl, rfl⟩ := Prod.mk.inj (Option.some.inj same)
          exact found
      · constructor
        · nofun
        · rintro ⟨_, _, _, same, pass', _⟩
          obtain ⟨rfl, rfl⟩ := Prod.mk.inj (Option.some.inj same)
          exact absurd pass' pass

/-- If nothing is found after one character, nothing is found from the place behind it. -/
theorem exists_of_afterOne_eq_none (h : afterOne p k c = none) {x : Char} {tail : List Char}
    (split : c.rest = x :: tail) (pass : p x = true) :
    ∃ later, later.rest = tail ∧ k later = none := by
  obtain ⟨later, ahead, rest⟩ := Cursor.exists_next? split
  rw [afterOne_of_next? ahead, if_pos pass] at h
  exact ⟨later, rest, h⟩

/-- If nothing is found after a run, nothing is found from any place that a run leads to. -/
theorem exists_of_afterRun_eq_none (h : afterRun p k c = none) {run tail : List Char}
    (split : c.rest = run ++ tail) (plain : ∀ x ∈ run, p x = true) :
    ∃ later, later.rest = tail ∧ k later = none := by
  induction run generalizing c with
  | nil =>
      rw [afterRun_eq] at h
      exact ⟨c, split, (Option.or_eq_none_iff.mp h).2⟩
  | cons x run ih =>
      rw [afterRun_eq] at h
      obtain ⟨own, others⟩ := List.forall_mem_cons.mp plain
      obtain ⟨later, rest, nothing⟩ :=
        exists_of_afterOne_eq_none (Option.or_eq_none_iff.mp h).1 split own
      exact ih nothing rest others

/-- What is found after a run is found from the place that it leads to, and nothing is found from a
place that a longer run leads to. -/
theorem exists_of_afterRun_eq_some (h : afterRun p k c = some result) :
    ∃ run later, c.rest = run ++ later.rest ∧ (∀ x ∈ run, p x = true) ∧ k later = some result ∧
      ∀ longer tail, c.rest = longer ++ tail → (∀ x ∈ longer, p x = true) →
        run.length < longer.length → ∃ place, place.rest = tail ∧ k place = none := by
  induction left : c.left using Nat.strongRecOn generalizing c with
  | _ n ih =>
      rw [afterRun_eq] at h
      obtain found | ⟨nothing, found⟩ := Option.or_eq_some_iff.mp h
      · obtain ⟨x, next, split, ahead, pass, found⟩ := afterOne_eq_some_iff.mp found
        have less := Cursor.left_of_next? ahead
        obtain ⟨run, later, split', plain, own, longest⟩ := ih next.left (by omega) found rfl
        refine ⟨x :: run, later, by rw [split, split', List.cons_append],
          List.forall_mem_cons.mpr ⟨pass, plain⟩, own, fun longer tail cut plain' greater => ?_⟩
        obtain _ | ⟨y, longer⟩ := longer
        · cases greater
        · obtain ⟨rfl, same⟩ := List.cons.inj (split.symm.trans cut)
          exact longest longer tail same (List.forall_mem_cons.mp plain').2
            (Nat.lt_of_succ_lt_succ greater)
      · refine ⟨[], c, rfl, nofun, found, fun longer tail cut plain greater => ?_⟩
        obtain _ | ⟨x, longer⟩ := longer
        · cases greater
        · obtain ⟨own, others⟩ := List.forall_mem_cons.mp plain
          obtain ⟨later, rest, nothing⟩ := exists_of_afterOne_eq_none nothing cut own
          exact exists_of_afterRun_eq_none nothing rest others

end Runs

/-! ## Matches -/

/-- What the variables among the signs take, if the signs take the rest of the text from a place
on. -/
def spans? (ignoreCase : Bool) : List Sign → Cursor → Option (List Span)
  | [], c => if Anchor.textEnd.holds c then some [] else none
  | .char y :: signs, c => afterOne (standsFor ignoreCase y) (spans? ignoreCase signs) c
  | .anyChar :: signs, c => afterOne (!isBreak ·) (spans? ignoreCase signs) c
  | .anyRun :: signs, c => afterRun (!isBreak ·) (spans? ignoreCase signs) c
  | .variable :: signs, c =>
    afterRun (!isBreak ·) (fun later => (spans? ignoreCase signs later).map (⟨c, later⟩ :: ·)) c

/-- What the variables capture from a text, in order, if the signs match all of it. -/
def match? (ignoreCase : Bool) (signs : List Sign) (text : List Char) :
    Option (List (List Char)) :=
  (spans? ignoreCase signs (.start text)).map (·.map Span.text)

variable {c : Cursor} {spans : List Span}

/-- Where nothing is found no cut is. -/
theorem not_cut_of_spans?_eq_none (h : spans? ignoreCase signs c = none) :
    ¬ Cut ignoreCase signs c.rest parts := by
  induction signs generalizing c parts with
  | nil =>
      intro cut
      rw [spans?, Anchor.holds, (cut_nil_iff.mp cut).2] at h
      cases h
  | cons sign signs ih =>
      intro cut
      obtain ⟨part, others, tail, rfl, split, takes, rest⟩ := cut_cons_iff.mp cut
      cases sign with
      | char y =>
          obtain ⟨x, rfl, stands⟩ := takes
          obtain ⟨later, rfl, nothing⟩ := exists_of_afterOne_eq_none h split stands
          exact ih nothing rest
      | anyChar =>
          obtain ⟨x, rfl, plain⟩ := takes
          obtain ⟨later, rfl, nothing⟩ := exists_of_afterOne_eq_none h split (by simp [plain])
          exact ih nothing rest
      | anyRun =>
          obtain ⟨later, rfl, nothing⟩ :=
            exists_of_afterRun_eq_none h split fun x mem => by simp [takes x mem]
          exact ih nothing rest
      | «variable» =>
          obtain ⟨later, rfl, nothing⟩ :=
            exists_of_afterRun_eq_none h split fun x mem => by simp [takes x mem]
          exact ih (Option.map_eq_none_iff.mp nothing) rest

theorem Span.text_eq {c later : Cursor} {run : List Char} (h : c.rest = run ++ later.rest) :
    (⟨c, later⟩ : Span).text = run := by
  have length : c.left - later.left = run.length := by
    rw [c.left_eq, later.left_eq, h, List.length_append]
    omega
  rw [Span.text, Cursor.upTo, length, h, List.take_left]

theorem IsGreedy.cons_one {x : Char} {tail : List Char} (single : sign.isRun = false)
    (ones : ∀ part, sign.Takes ignoreCase part → part.length = 1)
    (takes : sign.Takes ignoreCase [x]) (rest : IsGreedy ignoreCase signs tail parts) :
    IsGreedy ignoreCase (sign :: signs) (x :: tail) ([x] :: parts) where
  toCut := cut_cons_iff.mpr ⟨[x], parts, tail, rfl, rfl, takes, rest.toCut⟩
  greatest others cut ne := by
    obtain ⟨part, others, tail', rfl, split, own, cut⟩ := cut_cons_iff.mp cut
    obtain ⟨y, rfl⟩ := List.length_eq_one_iff.mp (ones part own)
    obtain ⟨rfl, rfl⟩ := List.cons.inj split
    rw [runLengths, runLengths, single, if_neg Bool.false_ne_true, if_neg Bool.false_ne_true]
    exact rest.greatest others cut fun same => ne (congrArg ([x] :: ·) same)

/-- A run in front of the chosen cut is chosen if no longer one leads to a cut. -/
theorem IsGreedy.cons_run {run tail : List Char} (many : sign.isRun = true)
    (takes : sign.Takes ignoreCase run) (rest : IsGreedy ignoreCase signs tail parts)
    (longest : ∀ longer tail', run ++ tail = longer ++ tail' → sign.Takes ignoreCase longer →
      run.length < longer.length → ∀ others, ¬ Cut ignoreCase signs tail' others) :
    IsGreedy ignoreCase (sign :: signs) (run ++ tail) (run :: parts) where
  toCut := cut_cons_iff.mpr ⟨run, parts, tail, rfl, rfl, takes, rest.toCut⟩
  greatest others cut ne := by
    obtain ⟨part, others, tail', rfl, split, own, cut⟩ := cut_cons_iff.mp cut
    rw [runLengths, runLengths, if_pos many, if_pos many]
    obtain shorter | same | longer := Nat.lt_trichotomy part.length run.length
    · exact .rel shorter
    · obtain ⟨rfl, rfl⟩ := List.append_inj split same.symm
      exact .cons (rest.greatest others cut fun same => ne (congrArg (run :: ·) same))
    · exact absurd cut (longest part tail' split own longer others)

/-- A run that is found stands in front of the chosen cut of what is behind it. -/
theorem exists_run_of_afterRun (sign : Sign) {β : Type} {k : Cursor → Option β} {result : β}
    (h : afterRun (!isBreak ·) k c = some result) (many : sign.isRun = true)
    (nothing : ∀ place, k place = none → spans? ignoreCase signs place = none) :
    ∃ run later, c.rest = run ++ later.rest ∧ k later = some result ∧
      ∀ parts, IsGreedy ignoreCase signs later.rest parts →
        IsGreedy ignoreCase (sign :: signs) c.rest (run :: parts) := by
  have takes (part : List Char) :
      sign.Takes ignoreCase part ↔ ∀ x ∈ part, (!isBreak x) = true := by
    cases sign with
    | anyRun => simp [Sign.Takes]
    | «variable» => simp [Sign.Takes]
    | _ => cases many
  obtain ⟨run, later, split, plain, found, longest⟩ := exists_of_afterRun_eq_some h
  refine ⟨run, later, split, found, fun parts greedy => ?_⟩
  rw [split]
  refine greedy.cons_run many ((takes run).mpr plain) fun longer tail cut own greater others => ?_
  obtain ⟨place, rfl, none⟩ :=
    longest longer tail (split.trans cut) ((takes longer).mp own) greater
  exact not_cut_of_spans?_eq_none (nothing place none)

/-- What is found is what the variables take of the chosen cut. -/
theorem exists_isGreedy_of_spans? (h : spans? ignoreCase signs c = some spans) :
    ∃ parts, IsGreedy ignoreCase signs c.rest parts ∧ valuesOf signs parts = spans.map Span.text := by
  induction signs generalizing c spans with
  | nil =>
      rw [spans?] at h
      split_ifs at h with atEnd
      obtain rfl := Option.some.inj h
      have ended : c.rest = [] := by
        simpa [Anchor.holds] using atEnd
      refine ⟨[], ⟨cut_nil_iff.mpr ⟨rfl, ended⟩, fun others cut ne => ?_⟩, rfl⟩
      exact absurd (cut_nil_iff.mp cut).1 ne
  | cons sign signs ih =>
      cases sign with
      | char y =>
          obtain ⟨x, later, split, _, stands, found⟩ := afterOne_eq_some_iff.mp h
          obtain ⟨parts, greedy, values⟩ := ih found
          refine ⟨[x] :: parts, split ▸ greedy.cons_one rfl ?_ ⟨x, rfl, stands⟩, values⟩
          rintro _ ⟨z, rfl, _⟩
          rfl
      | anyChar =>
          obtain ⟨x, later, split, _, plain, found⟩ := afterOne_eq_some_iff.mp h
          obtain ⟨parts, greedy, values⟩ := ih found
          refine ⟨[x] :: parts, split ▸ greedy.cons_one rfl ?_ ⟨x, rfl, by simpa using plain⟩,
            values⟩
          rintro _ ⟨z, rfl, _⟩
          rfl
      | anyRun =>
          obtain ⟨run, later, _, found, chosen⟩ :=
            exists_run_of_afterRun .anyRun h rfl fun _ nothing => nothing
          obtain ⟨parts, greedy, values⟩ := ih found
          exact ⟨run :: parts, chosen parts greedy, values⟩
      | «variable» =>
          obtain ⟨run, later, split, found, chosen⟩ :=
            exists_run_of_afterRun .variable h rfl fun _ => Option.map_eq_none_iff.mp
          obtain ⟨others, own, rfl⟩ := Option.map_eq_some_iff.mp found
          obtain ⟨parts, greedy, values⟩ := ih own
          refine ⟨run :: parts, chosen parts greedy, ?_⟩
          rw [valuesOf, values, List.map_cons, Span.text_eq split]

/-- What a match captures are the parts of the chosen cut. -/
theorem exists_greedy_of_match {values : List (List Char)}
    (h : match? ignoreCase signs text = some values) :
    ∃ parts, IsGreedy ignoreCase signs text parts ∧ valuesOf signs parts = values := by
  obtain ⟨spans, found, rfl⟩ := Option.map_eq_some_iff.mp h
  exact exists_isGreedy_of_spans? found

/-- A text that can be cut into parts that the signs take is matched. -/
theorem Cut.exists_match (cut : Cut ignoreCase signs text parts) :
    ∃ values, match? ignoreCase signs text = some values := by
  rw [← Option.isSome_iff_exists, match?, Option.isSome_map, Option.isSome_iff_ne_none]
  intro nothing
  exact not_cut_of_spans?_eq_none nothing cut

theorem isSome_match?_iff :
    (match? ignoreCase signs text).isSome = true ↔ ∃ parts, Cut ignoreCase signs text parts := by
  rw [Option.isSome_iff_exists]
  constructor
  · rintro ⟨values, found⟩
    obtain ⟨parts, greedy, _⟩ := exists_greedy_of_match found
    exact ⟨parts, greedy.toCut⟩
  · rintro ⟨parts, cut⟩
    exact cut.exists_match

end Glob

end Interception.Ant
