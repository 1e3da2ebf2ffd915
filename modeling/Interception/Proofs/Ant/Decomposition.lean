import Interception.Ant.Matcher
import Interception.Proofs.Ant.Translation

/-!
# What a token takes

A token without constraints takes a text if the text can be cut into consecutive parts, one for each
element that the token writes. Of all such decompositions it captures from the one whose runs are
the longest, the earlier ones first.

Plain text is compared and not matched as a glob, but comes to the same as the glob of its
characters. So there is one account of both.
-/

namespace Interception.Ant

namespace Element

/-- Whether the element takes a part of a text, where case counts and a variable has no
constraint. -/
def Takes : Element → List Char → Prop
  | text c, part => part = [c]
  | anyChar, part => ∃ x, part = [x] ∧ x ≠ '\n'
  | anyRun, part => '\n' ∉ part
  | placeholder _ _, part => '\n' ∉ part

/-- Whether the element stands for a run of characters. -/
def isRun : Element → Bool
  | text _ | anyChar => false
  | anyRun | placeholder _ _ => true

/-- What the variables among the elements capture from their parts, in order. -/
def capturedFrom : List Element → List (List Char) → Captures
  | placeholder name _ :: elements, part :: parts => (name, part) :: capturedFrom elements parts
  | _ :: elements, _ :: parts => capturedFrom elements parts
  | _, _ => []

end Element

/-- The text is cut into consecutive parts, one for each element, that the elements take. -/
structure Decomposes (elements : List Element) (text : List Char) (parts : List (List Char)) :
    Prop where
  takes : List.Forall₂ Element.Takes elements parts
  whole : parts.flatten = text

/-- The decomposition is the one with the longest runs: the lengths of those of any other one are
less in lexicographic order. -/
structure IsLongest (elements : List Element) (text : List Char) (parts : List (List Char)) : Prop
    extends Decomposes elements text parts where
  greatest : ∀ others, Decomposes elements text others → others ≠ parts →
    runLengths Element.isRun elements others < runLengths Element.isRun elements parts

variable {element : Element} {elements : List Element} {token text part : List Char}
variable {parts : List (List Char)} {segment : Segment}

/-! ## Elements as signs -/

theorem isRun_comp_sign : Glob.Sign.isRun ∘ Element.sign = Element.isRun := by
  funext element
  cases element <;> rfl

theorem forall_isBreak_iff : (∀ x ∈ part, Glob.isBreak x = false) ↔ '\n' ∉ part := by
  simp only [Glob.isBreak, beq_eq_false_iff_ne]
  constructor
  · intro plain mem
    exact plain '\n' mem rfl
  · rintro plain x mem rfl
    exact plain mem

theorem Element.takes_sign_iff (element : Element) :
    element.sign.Takes false part ↔ element.Takes part := by
  cases element with
  | text c =>
      simp only [Element.sign, Glob.Sign.Takes, Element.Takes, Regex.standsFor_false, beq_iff_eq]
      constructor
      · rintro ⟨x, rfl, rfl⟩
        rfl
      · rintro rfl
        exact ⟨c, rfl, rfl⟩
  | anyChar =>
      simp only [Element.sign, Glob.Sign.Takes, Element.Takes, Glob.isBreak, beq_eq_false_iff_ne]
  | anyRun => exact forall_isBreak_iff
  | placeholder name constraint => exact forall_isBreak_iff

theorem cut_iff_decomposes :
    Glob.Cut false (elements.map Element.sign) text parts ↔ Decomposes elements text parts := by
  constructor
  · rintro ⟨takes, whole⟩
    rw [List.forall₂_map_left_iff] at takes
    exact ⟨takes.imp fun element _ => element.takes_sign_iff.mp, whole⟩
  · rintro ⟨takes, whole⟩
    refine ⟨?_, whole⟩
    rw [List.forall₂_map_left_iff]
    exact takes.imp fun element _ => element.takes_sign_iff.mpr

theorem isLongest_of_isGreedy
    (greedy : Glob.IsGreedy false (elements.map Element.sign) text parts) :
    IsLongest elements text parts where
  toDecomposes := cut_iff_decomposes.mp greedy.toCut
  greatest := by
    intro others decomposes ne
    have less := greedy.greatest others (cut_iff_decomposes.mpr decomposes) ne
    rwa [runLengths_map, runLengths_map, isRun_comp_sign] at less

theorem Element.zip_valuesOf (takes : List.Forall₂ Element.Takes elements parts) :
    (variableNames elements).zip (Glob.valuesOf (elements.map Element.sign) parts) =
      Element.capturedFrom elements parts := by
  induction takes with
  | nil => rfl
  | @cons element part elements parts own others ih =>
      cases element with
      | text c => exact ih
      | anyChar => exact ih
      | anyRun => exact ih
      | placeholder name constraint => exact congrArg ((name, part) :: ·) ih

/-! ## Plain text -/

theorem writes_texts (plain : isTemplate token = false) : Writes (token.map .text) token := by
  induction token with
  | nil => exact .nil
  | cons c token ih =>
      rw [isTemplate, List.any_cons, Bool.or_eq_false_iff] at plain
      have own : Element.IsWritable (.text c) := by
        simpa [Element.IsWritable, and_comm, and_assoc] using plain.1
      exact .cons own (ih plain.2)

theorem takes_chars (chars : List Char) :
    List.Forall₂ (Glob.Sign.Takes false) (chars.map .char) (chars.map ([·])) := by
  induction chars with
  | nil => exact .nil
  | cons c chars ih => exact .cons ((Element.takes_sign_iff (.text c)).mpr rfl) ih

/-- The parts that characters take are the characters. -/
theorem flatten_of_takes_chars {chars : List Char}
    (takes : List.Forall₂ (Glob.Sign.Takes false) (chars.map .char) parts) :
    parts.flatten = chars ∧ Glob.valuesOf (chars.map .char) parts = [] := by
  induction chars generalizing parts with
  | nil =>
      obtain rfl := List.forall₂_nil_left_iff.mp takes
      exact ⟨rfl, rfl⟩
  | cons c chars ih =>
      obtain ⟨part, parts, own, rest, rfl⟩ := List.forall₂_cons_left_iff.mp takes
      obtain rfl : part = [c] := (Element.takes_sign_iff (.text c)).mp own
      obtain ⟨flatten, none⟩ := ih rest
      exact ⟨congrArg (c :: ·) flatten, none⟩

/-- The glob of characters matches the text that they are. -/
theorem match?_chars (chars text : List Char) :
    Glob.match? false (chars.map .char) text = if chars = text then some [] else none := by
  cases found : Glob.match? false (chars.map .char) text with
  | some values =>
      obtain ⟨parts, greedy, own⟩ := Glob.exists_greedy_of_match found
      obtain ⟨flatten, none⟩ := flatten_of_takes_chars greedy.takes
      rw [if_pos (flatten.symm.trans greedy.whole), ← own, none]
  | none =>
      rw [if_neg]
      rintro rfl
      have takes := takes_chars chars
      obtain ⟨values, matched⟩ := Glob.Cut.exists_match ⟨takes, (flatten_of_takes_chars takes).1⟩
      cases found.symm.trans matched

/-! ## Segments -/

/-- A token that can be compiled is written by some elements. -/
theorem exists_writes_of_compile {ignoreCase : Bool}
    (compiled : Segment.compile ignoreCase token = .ok segment) :
    ∃ elements, Writes elements token := by
  rw [Segment.compile] at compiled
  split_ifs at compiled with star kind
  · exact ⟨[.anyRun], star ▸ .cons trivial .nil⟩
  · rw [Draft.ofToken_eq] at compiled
    cases read : readElements .outside token with
    | error fault =>
        rw [read] at compiled
        cases compiled
    | ok elements => exact ⟨elements, readElements_eq_ok_iff.mp read⟩
  · exact ⟨token.map .text, writes_texts (Bool.eq_false_iff.mpr kind)⟩

/-- A segment without constraints is matched as the glob of its elements. -/
theorem capture?_of_compile (writes : Writes elements token)
    (free : ∀ element ∈ elements, element.isConstrained = false) (ne : token ≠ ['*'])
    (compiled : Segment.compile false token = .ok segment) (text : List Char) :
    segment.capture? false text =
      (Glob.match? false (elements.map Element.sign) text).map (variableNames elements).zip := by
  cases kind : isTemplate token with
  | true =>
      rw [compile_of_writes writes free ne kind] at compiled
      split_ifs at compiled
      cases compiled
      exact capture?_globRegex _ _ text
  | false =>
      rw [Segment.compile, if_neg ne, kind] at compiled
      cases compiled
      obtain rfl := (writes_texts kind).unique writes
      have signs : (token.map Element.text).map Element.sign = token.map .char := List.map_map
      rw [signs, match?_chars, Segment.capture?, if_neg Bool.false_ne_true]
      split_ifs
      · rw [Option.map_some, List.zip_nil_right]
      · rfl

section Compiled

variable (writes : Writes elements token)
variable (free : ∀ element ∈ elements, element.isConstrained = false) (ne : token ≠ ['*'])
variable (compiled : Segment.compile false token = .ok segment)
include writes free ne compiled

/-- What is captured are the parts of the longest decomposition. -/
theorem exists_isLongest_of_capture {captures : Captures}
    (taken : segment.capture? false text = some captures) :
    ∃ parts, IsLongest elements text parts ∧ Element.capturedFrom elements parts = captures := by
  rw [capture?_of_compile writes free ne compiled] at taken
  obtain ⟨values, found, rfl⟩ := Option.map_eq_some_iff.mp taken
  obtain ⟨parts, greedy, rfl⟩ := Glob.exists_greedy_of_match found
  have longest := isLongest_of_isGreedy greedy
  exact ⟨parts, longest, (Element.zip_valuesOf longest.takes).symm⟩

theorem exists_capture_of_decomposes (decomposes : Decomposes elements text parts) :
    ∃ captures, segment.capture? false text = some captures := by
  obtain ⟨values, found⟩ := (cut_iff_decomposes.mpr decomposes).exists_match
  rw [capture?_of_compile writes free ne compiled, found]
  exact ⟨_, rfl⟩

/-- The texts that decompose are accepted. -/
theorem accepts_iff_decomposes :
    segment.accepts false text = true ↔ ∃ parts, Decomposes elements text parts := by
  rw [Segment.accepts, Option.isSome_iff_exists]
  constructor
  · rintro ⟨captures, taken⟩
    obtain ⟨parts, longest, _⟩ := exists_isLongest_of_capture writes free ne compiled taken
    exact ⟨parts, longest.toDecomposes⟩
  · rintro ⟨parts, decomposes⟩
    exact exists_capture_of_decomposes writes free ne compiled decomposes

end Compiled

end Interception.Ant

namespace Interception.AntMatcher

open Ant

variable {m : AntMatcher} {token : List Char} {segment : Segment}

/-- A token that can be compiled, other than a lone asterisk, is written by exactly one row of
elements. If none of them has a constraint, its segment accepts the texts that decompose into parts
that the elements take, and captures from the longest decomposition. -/
theorem exists_elements_of_compile (sensitive : m.caseSensitive = true) (ne : token ≠ ['*'])
    (compiled : m.compile token = .ok segment) :
    ∃ elements, (∀ row, Writes row token ↔ row = elements) ∧
      ((∀ element ∈ elements, element.isConstrained = false) → ∀ text,
        (segment.accepts (!m.caseSensitive) text = true ↔
          ∃ parts, Decomposes elements text parts) ∧
        ∀ captures, segment.capture? (!m.caseSensitive) text = some captures →
          ∃ parts, IsLongest elements text parts ∧
            Element.capturedFrom elements parts = captures) := by
  rw [sensitive, Bool.not_true]
  rw [compile, sensitive, Bool.not_true] at compiled
  obtain ⟨elements, writes⟩ := exists_writes_of_compile compiled
  refine ⟨elements, ?_, ?_⟩
  · intro row
    constructor
    · exact writes.unique
    · rintro rfl
      exact writes
  · intro free text
    refine ⟨accepts_iff_decomposes writes free ne compiled, ?_⟩
    intro captures taken
    exact exists_isLongest_of_capture writes free ne compiled taken

/-- A point stands for itself, and of two variables with an asterisk between them the first one
captures everything. -/
theorem exists_elements_of_compile_mixed :
    let elements : List Element :=
      [.text '.', .placeholder ['x'] none, .anyRun, .placeholder ['y'] none, .anyChar]
    Writes elements ".{x}*{y}?".toList ∧
      (¬ ∃ parts, Decomposes elements "abcd".toList parts) ∧
      ∃ parts, IsLongest elements ".bcd".toList parts ∧
        Element.capturedFrom elements parts = [(['x'], ['b', 'c']), (['y'], [])] := by
  intro elements
  have writes : Writes elements ".{x}*{y}?".toList := ⟨by decide, rfl⟩
  have free : ∀ element ∈ elements, element.isConstrained = false := by decide
  have compiled : (default : AntMatcher).compile ".{x}*{y}?".toList =
      .ok (.pattern (.ofRegex (globRegex false (elements.map Element.sign))) [['x'], ['y']]) := by
    rw [compile, compile_of_writes writes free (by decide) rfl, if_pos (by decide +kernel)]
    rfl
  obtain ⟨row, unique, captures⟩ := exists_elements_of_compile rfl (by decide) compiled
  obtain rfl := (unique elements).mp writes
  refine ⟨writes, ?_, ?_⟩
  · rw [← (captures free _).1]
    decide +kernel
  · exact (captures free _).2 _ (by decide +kernel)

end Interception.AntMatcher
