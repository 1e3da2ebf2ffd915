import Interception.Proofs.Ant.Faults
import Interception.Proofs.Ant.Translation
import Interception.Proofs.Regex.Enclosure

/-!
# Constraints that are no regular expressions

The constraint of a variable is read as part of the regular expression for the whole token. What is
no regular expression alone does not become one there, unless it closes the group of its variable:
then its parts are read on both sides of the parenthesis. Another constraint of the token may also
complete it, but none that is a row of characters, classes, points and repetitions. So a token is at
fault that has a malformed constraint which closes no group, among others that are such rows, and the
fault is reported as soon as a text is tried against the token.
-/

namespace Interception.Ant

open Regex

variable {ignoreCase : Bool} {name constraint token : List Char} {front back : List Element}

/-- Whether the element does nothing to the groups around it: a variable without a constraint or with
a quiet one, a wildcard or a character. -/
def Element.isHarmless : Element → Bool
  | .placeholder _ (some constraint) => isQuiet constraint
  | _ => true

/-- The text of harmless elements is calm up to what stands behind it. -/
theorem exists_calmTo_regexText (harmless : ∀ element ∈ front, element.isHarmless = true)
    (index : Nat) (elements : List Element) (tail : List Char) :
    ∃ next,
      CalmTo (regexText next elements ++ tail) (regexText index (front ++ elements) ++ tail) := by
  induction front generalizing index with
  | nil => exact ⟨index, .done⟩
  | cons element front ih =>
      obtain ⟨own, others⟩ := List.forall_mem_cons.mp harmless
      cases element with
      | text c =>
          obtain ⟨next, calm⟩ := ih others index
          refine ⟨next, ?_⟩
          rw [List.cons_append, regexText, escaped]
          split
          · next special => exact .escape (isEscape_of_isMeta special) calm
          · next plain => exact .cons (.plain (Bool.eq_false_iff.mpr plain)) calm
      | anyChar =>
          obtain ⟨next, calm⟩ := ih others index
          exact ⟨next, .cons (.operator (by decide)) calm⟩
      | anyRun =>
          obtain ⟨next, calm⟩ := ih others index
          exact ⟨next, .cons (.operator (by decide)) (.cons (.operator (by decide)) calm)⟩
      | placeholder name constraint =>
          obtain ⟨next, calm⟩ := ih others (index + 1)
          have quiet : isQuiet (constraint.getD anyText) = true := by
            cases constraint with
            | none => rfl
            | some constraint => exact own
          have group : regexText index (.placeholder name constraint :: (front ++ elements)) ++ tail =
              namedGroup (groupName index).toList (constraint.getD anyText) ++
                (regexText (index + 1) (front ++ elements) ++ tail) := by
            simp [regexText, namedGroup]
          refine ⟨next, ?_⟩
          rw [List.cons_append, group]
          exact .group (isPlainName_groupName index) quiet calm

/-- A malformed constraint that closes no group leaves the token without a regular expression. -/
theorem compile?_of_malformed (harmless : ∀ element ∈ front ++ back, element.isHarmless = true)
    (malformed : IsMalformed ignoreCase constraint) (keeps : ¬ ClosesGroup constraint) :
    Regex.compile? ignoreCase
      (sourceText (front ++ .placeholder name (some constraint) :: back)) = none := by
  obtain ⟨harmlessFront, harmlessBack⟩ := List.forall_mem_append.mp harmless
  have last : Calm ['$'] := .cons (.operator (by decide)) .done
  obtain ⟨next, around⟩ :=
    exists_calmTo_regexText harmlessFront 0 (.placeholder name (some constraint) :: back) ['$']
  obtain ⟨_, behind⟩ := exists_calmTo_regexText harmlessBack (next + 1) [] ['$']
  rw [List.append_nil] at behind
  have group : regexText next (.placeholder name (some constraint) :: back) ++ ['$'] =
      "(?P<".toList ++ (groupName next).toList ++
        '>' :: (constraint ++ ')' :: (regexText (next + 1) back ++ ['$'])) := by
    simp [regexText]
  rw [group] at around
  exact compile?_enclosed (isPlainName_groupName next) (behind.trans last) around malformed keeps

/-- The token is at fault. -/
theorem compile_of_malformed
    (writes : Writes (front ++ .placeholder name (some constraint) :: back) token)
    (harmless : ∀ element ∈ front ++ back, element.isHarmless = true)
    (malformed : IsMalformed ignoreCase constraint) (keeps : ¬ ClosesGroup constraint) :
    Segment.compile ignoreCase token =
      .error (.invalidRegex
        (sourceText (front ++ .placeholder name (some constraint) :: back))) := by
  have brace : '\x7b' ∈ token :=
    writes.written ▸ List.mem_flatMap.mpr ⟨_, List.mem_append_cons_self, List.mem_cons_self⟩
  have ne : token ≠ ['*'] := by
    rintro rfl
    exact absurd brace (by decide)
  have kind : isTemplate token = true := List.any_eq_true.mpr ⟨_, brace, rfl⟩
  rw [Segment.compile, if_neg ne, if_pos kind, Draft.ofToken_eq, readElements_of_writes writes]
  simp only [Except.map, bind, Except.bind, Program.compile?,
    compile?_of_malformed harmless malformed keeps, Option.map_none]
  rfl

end Interception.Ant

namespace Interception.AntMatcher

open Ant Regex

variable {m : AntMatcher} {pattern path name constraint token : List Char}
variable {before after taken : List (List Char)} {front back : List Element}

/-- Tokens that take something of a path parse. -/
theorem Cuts.parses (h : m.Cuts before taken) : ∀ token ∈ before, m.Parses token := by
  obtain ⟨blocks, -, takes⟩ := h
  intro token mem
  induction takes with
  | nil => cases mem
  | cons own _ ih =>
      obtain rfl | mem := List.mem_cons.mp mem
      · obtain spread | ⟨_, -, segment, compiled, -⟩ := own
        · exact .inl spread
        · exact .inr ⟨segment, compiled⟩
      · exact ih mem

/-- A constraint that is no regular expression is reported. Where it closes no group that it has not
opened, and the other elements of its token are harmless, the token does not compile, no path is
matched by a pattern with such a token in it, and whenever a text of a path is tried against the
token, the result is that the pattern has an invalid regular expression. -/
theorem isMatch_of_malformed (m : AntMatcher) (pattern : List Char)
    (mem : token ∈ m.tokens pattern)
    (writes : Writes (front ++ .placeholder name (some constraint) :: back) token)
    (harmless : ∀ element ∈ front ++ back, element.isHarmless = true)
    (malformed : IsMalformed (!m.caseSensitive) constraint) (keeps : ¬ ClosesGroup constraint) :
    let fault := .invalidRegex (sourceText (front ++ .placeholder name (some constraint) :: back))
    m.compile token = .error fault ∧
    (∀ path, m.isMatch pattern path ≠ .ok true) ∧
    ∀ before after path, m.tokens pattern = before ++ token :: after →
      m.ComesPast pattern before path →
      m.isMatch pattern path = .error (m.faultIn pattern fault) ∧
      m.extract pattern path = .error (m.faultIn pattern fault) := by
  intro fault
  have failed : m.compile token = .error fault :=
    compile_of_malformed writes harmless malformed keeps
  have notSpread : token ≠ spreadToken := by
    rintro rfl
    have brace : '\x7b' ∈ spreadToken :=
      writes.written ▸ List.mem_flatMap.mpr ⟨_, List.mem_append_cons_self, List.mem_cons_self⟩
    exact absurd brace (by decide)
  refine ⟨failed, fun path => ?_, fun before after path split comes => ?_⟩
  · have faulty : ¬ m.Parses token := by
      rintro (spread | ⟨segment, compiled⟩)
      · exact notSpread spread
      · cases failed.symm.trans compiled
    obtain ⟨before, fault, first⟩ := exists_firstFault_iff.mpr ⟨token, mem, faulty⟩
    obtain ⟨-, found⟩ | ⟨-, none⟩ := first.capture_eq path
    · rw [isMatch_of_capture_error found]
      nofun
    · rw [isMatch_of_capture none]
      nofun
  · obtain ⟨-, taken, text, rest, -, cuts⟩ := id comes
    have first : m.FirstFault pattern before fault :=
      ⟨cuts.parses, token, after, split, notSpread, failed⟩
    obtain ⟨-, found⟩ := (first.capture_eq path).resolve_right fun missed => missed.1 comes
    exact ⟨isMatch_of_capture_error found, extract_of_capture_error found⟩

/-- A constraint with a parenthesis that is not closed, in the midst of other elements, one of them a
variable with digits. -/
theorem isMatch_of_open_parenthesis :
    let pattern := "/v\x7ba:(\x7d.\x7bb:\\d+\x7d".toList
    let path := "/v1.2".toList
    let reported :=
      PatternError.invalidRegex "/v\x7ba:(\x7d.\x7bb:\\d+\x7d" "not a regular expression"
    default.isMatch pattern path = .error reported ∧ default.extract pattern path = .error reported := by
  intro pattern path reported
  have writes : Writes ([.text 'v'] ++ .placeholder ['a'] (some ['(']) ::
      [.text '.', .placeholder ['b'] (some ['\\', 'd', '+'])])
      "v\x7ba:(\x7d.\x7bb:\\d+\x7d".toList := ⟨by decide, rfl⟩
  have malformed : IsMalformed false ['('] := by
    intro e parsed
    cases (show Expr.parse? ['('] = none from rfl).symm.trans parsed
  have keeps : ¬ ClosesGroup ['('] := by
    rintro ⟨o, rest, reads⟩
    cases (show readGroup? 2 .start ['('] = none from rfl).symm.trans reads
  obtain ⟨-, -, result⟩ := isMatch_of_malformed default pattern (by decide) writes
    (List.all_iff_forall_prop.mp (by decide +kernel)) malformed keeps
  exact result [] [] path rfl ⟨rfl, [], "v1.2".toList, [], by decide, [], rfl, .nil⟩

/-- Constraints that are no regular expressions and are not reported: the parts of the first one
stand on both sides of the parentheses of its group, and the other two are one where they meet. -/
theorem isMatch_of_parts_outside :
    Expr.parse? "x)|(y".toList = none ∧
      default.isMatch "/\x7ba:x)|(y\x7d".toList "/x".toList = .ok true ∧
    Expr.parse? "(x".toList = none ∧ Expr.parse? "y)".toList = none ∧
      default.isMatch "/\x7ba:(x\x7d\x7bb:y)\x7d".toList "/xy".toList = .ok true := by
  refine ⟨rfl, ?_, rfl, rfl, ?_⟩
  · decide +kernel
  · decide +kernel

end Interception.AntMatcher
