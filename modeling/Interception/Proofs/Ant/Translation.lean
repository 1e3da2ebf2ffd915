import Interception.Proofs.Ant.GlobSearch
import Interception.Proofs.Ant.Reading
import Interception.Proofs.Regex.Enclosure

/-!
# Tokens as regular expressions

The text of the regular expression for a token without constraints is read as it is meant: an
escaped character as this character, a point as any character, and a variable as a named group
around a run. So the token is compiled to the program for the glob of its elements, unless that is
too large, and is matched as the glob.
-/

namespace Interception.Ant

open Regex

namespace Element

/-- The sign of a glob that the element is. -/
def sign : Element → Glob.Sign
  | text c => .char c
  | anyChar => .anyChar
  | anyRun => .anyRun
  | placeholder _ _ => .variable

end Element

/-- What is written for a row of elements without constraints; `index` is the number of variables
before it. -/
def elementExprs (index : Nat) : List Element → List Expr
  | [] => []
  | .text c :: elements => .literal ⟨c, false⟩ :: elementExprs index elements
  | .anyChar :: elements => .dot :: elementExprs index elements
  | .anyRun :: elements => .repetition .dot 0 none true :: elementExprs index elements
  | .placeholder _ _ :: elements =>
    .group (.named (groupName index)) (.repetition .dot 0 none true) ::
      elementExprs (index + 1) elements

variable {ignoreCase : Bool} {elements : List Element} {token text : List Char} {index : Nat}

theorem isPlainName_groupName (index : Nat) : IsPlainName (groupName index).toList := by
  rw [toList_groupName]
  refine ⟨⟨'p', _, rfl, by decide⟩, fun c mem => ?_⟩
  have letters : ∀ c ∈ ['p', 'g', 'v'], c.isAlphanum = true :=
    List.all_iff_forall_prop.mp (by decide)
  obtain mem | mem := List.mem_append.mp mem
  · exact letters c mem
  · have digit := Nat.isDigit_of_mem_toDigits (by decide) (by decide) mem
    rw [Char.isAlphanum, digit, Bool.or_true]

/-! ## Reading -/

theorem readSign?_escaped_append (c : Char) (rest : List Char) :
    readSign? false (skip false (escaped c ++ rest)) =
      some (.part (.literal ⟨c, false⟩), rest) := by
  rw [escaped]
  split
  · next special => exact readSign?_escaped special rest
  · next plain => exact readSign?_plain (Bool.eq_false_iff.mpr plain) rest

theorem head?_regexText_ne (elements : List Element) (index : Nat) :
    (regexText index elements ++ ['$']).head? ≠ some '?' := by
  cases elements with
  | nil => simp [regexText]
  | cons element elements =>
      cases element with
      | text c =>
          rw [regexText, escaped]
          split
          · simp
          · next plain =>
            rintro ⟨⟩
            exact plain rfl
      | anyChar => simp [regexText]
      | anyRun => simp [regexText]
      | placeholder name constraint => simp [regexText]

/-- The inside of a group for a variable. -/
theorem reads_run (parts : List Expr) (names : List String) (rest : List Char) :
    Reads ⟨parts, [], names, false⟩ ('.' :: '*' :: ')' :: rest)
      ⟨.repetition .dot 0 none true :: parts, [], names, false⟩ (')' :: rest) := by
  have dot : readSign? false ('.' :: '*' :: ')' :: rest) =
      some (.part .dot, '*' :: ')' :: rest) := rfl
  exact .step dot rfl (.step (readSign?_star nofun) rfl (.stop rfl))

/-- Reading goes through a variable whose group is the first of its name. -/
theorem reads_variable {parts : List Expr} {names : List String} {rest left : List Char}
    {last : OpenGroup} (new : groupName index ∉ names)
    (later : Reads ⟨.group (.named (groupName index)) (.repetition .dot 0 none true) :: parts, [],
      groupName index :: names, false⟩ rest last left) :
    Reads ⟨parts, [], names, false⟩
      ("(?P<".toList ++ (groupName index).toList ++ '>' :: '.' :: '*' :: ')' :: rest) last left := by
  have sign := @readSign?_named false _ (isPlainName_groupName index) ('.' :: '*' :: ')' :: rest)
  rw [String.ofList_toList] at sign
  refine .group sign ?_ (reads_run [] _ _) later
  simpa [GroupKind.name?] using new

/-- Reading goes through the texts of the elements, one after the other. -/
theorem exists_reads_regexText (free : ∀ element ∈ elements, element.isConstrained = false)
    (index : Nat) (parts : List Expr) (names : List String)
    (new : ∀ j, index ≤ j → groupName j ∉ names) :
    ∃ names', Reads ⟨parts, [], names, false⟩ (regexText index elements ++ ['$'])
      ⟨(elementExprs index elements ++ [Expr.assertion .lineEnd]).reverseAux parts, [], names', false⟩
      [] := by
  induction elements generalizing index parts names with
  | nil =>
      have sign : readSign? false ['$'] = some (.part (.assertion .lineEnd), []) := rfl
      exact ⟨names, .step sign rfl (.stop rfl)⟩
  | cons element elements ih =>
      obtain ⟨own, others⟩ := List.forall_mem_cons.mp free
      cases element with
      | text c =>
          obtain ⟨names', later⟩ := ih others index (.literal ⟨c, false⟩ :: parts) names new
          refine ⟨names', ?_⟩
          rw [regexText, List.append_assoc]
          exact .step (readSign?_escaped_append c _) rfl later
      | anyChar =>
          obtain ⟨names', later⟩ := ih others index (.dot :: parts) names new
          have sign : readSign? false ('.' :: (regexText index elements ++ ['$'])) =
              some (.part .dot, regexText index elements ++ ['$']) := rfl
          exact ⟨names', .step sign rfl later⟩
      | anyRun =>
          obtain ⟨names', later⟩ := ih others index (.repetition .dot 0 none true :: parts) names new
          have dot : readSign? false ('.' :: '*' :: (regexText index elements ++ ['$'])) =
              some (.part .dot, '*' :: (regexText index elements ++ ['$'])) := rfl
          have star := @readSign?_star false _ (head?_regexText_ne elements index)
          exact ⟨names', .step dot rfl (.step star rfl later)⟩
      | placeholder name constraint =>
          cases constraint with
          | some constraint => cases own
          | none =>
              have fresh : ∀ j, index + 1 ≤ j → groupName j ∉ groupName index :: names := by
                intro j le mem
                obtain same | mem := List.mem_cons.mp mem
                · have := groupName_inj.mp same
                  omega
                · exact new j (Nat.le_of_succ_le le) mem
              obtain ⟨names', later⟩ := ih others (index + 1)
                (.group (.named (groupName index)) (.repetition .dot 0 none true) :: parts) _ fresh
              have text : regexText index (.placeholder name none :: elements) ++ ['$'] =
                  "(?P<".toList ++ (groupName index).toList ++
                    '>' :: '.' :: '*' :: ')' :: (regexText (index + 1) elements ++ ['$']) := by
                simp [regexText, anyText]
              rw [text]
              exact ⟨names', reads_variable (new index (Nat.le_refl index)) later⟩

/-! ## Meaning -/

theorem notLineFeed_single? : CharSet.notLineFeed.single? = none := by
  rw [CharSet.single?, notLineFeed_bounds]
  rfl

theorem ofSet_notLineFeed : ofSet .notLineFeed = .set .notLineFeed := by
  rw [ofSet, notLineFeed_single?]

/-- The meaning of a row is that of its first expression, with the meaning of the others behind
it. -/
theorem meanings?_cons {scope later last : Scope} {e : Expr} {es : List Expr} {r : Regex}
    {rs : List Regex} (first : e.meaning? scope = some (r, later))
    (others : meanings? later es = some (rs, last)) :
    meanings? scope (e :: es) = some (r :: rs, last) := by
  rw [meanings?, first]
  simp only [bind, Option.bind_some, others]
  rfl

section Initial

variable (ignoreCase : Bool) (index : Nat)

theorem meaning?_literal (c : Char) :
    (Expr.literal ⟨c, false⟩).meaning? ⟨.initial ignoreCase, index⟩ =
      some (letter ignoreCase c, ⟨.initial ignoreCase, index⟩) := rfl

theorem meaning?_dot : Expr.dot.meaning? ⟨.initial ignoreCase, index⟩ =
    some (.set .notLineFeed, ⟨.initial ignoreCase, index⟩) := by
  rw [← ofSet_notLineFeed]
  rfl

theorem meaning?_run : (Expr.repetition .dot 0 none true).meaning? ⟨.initial ignoreCase, index⟩ =
    some (repetition (.set .notLineFeed) 0 none true, ⟨.initial ignoreCase, index⟩) := by
  rw [Expr.meaning?, meaning?_dot]
  rfl

theorem meaning?_variable :
    (Expr.group (.named (groupName index)) (.repetition .dot 0 none true)).meaning?
        ⟨.initial ignoreCase, index⟩ =
      some (.group (index + 1) (some (groupName index)) (repetition (.set .notLineFeed) 0 none true),
        ⟨.initial ignoreCase, index + 1⟩) := by
  rw [Expr.meaning?]
  simp only [meaning?_run]
  rfl

end Initial

/-- What is written for the elements means the expressions of their signs. -/
theorem exists_meanings?_elementExprs (ignoreCase : Bool) (elements : List Element) (index : Nat) :
    ∃ scope, meanings? ⟨.initial ignoreCase, index⟩
        (elementExprs index elements ++ [Expr.assertion .lineEnd]) =
      some (signRegexes ignoreCase index (elements.map Element.sign) ++ [.anchor .textEnd],
        scope) := by
  induction elements generalizing index with
  | nil => exact ⟨_, rfl⟩
  | cons element elements ih =>
      cases element with
      | text c =>
          obtain ⟨scope, rest⟩ := ih index
          exact ⟨scope, meanings?_cons (meaning?_literal ignoreCase index c) rest⟩
      | anyChar =>
          obtain ⟨scope, rest⟩ := ih index
          exact ⟨scope, meanings?_cons (meaning?_dot ignoreCase index) rest⟩
      | anyRun =>
          obtain ⟨scope, rest⟩ := ih index
          exact ⟨scope, meanings?_cons (meaning?_run ignoreCase index) rest⟩
      | placeholder name constraint =>
          obtain ⟨scope, rest⟩ := ih (index + 1)
          exact ⟨scope, meanings?_cons (meaning?_variable ignoreCase index) rest⟩

/-! ## Depth -/

theorem depths_elementExprs (elements : List Element) (index : Nat) :
    Expr.depths (elementExprs index elements ++ [Expr.assertion .lineEnd]) ≤ 2 := by
  rw [Expr.depths_append]
  refine Nat.max_le.mpr ⟨?_, by decide⟩
  induction elements generalizing index with
  | nil => exact Nat.zero_le 2
  | cons element elements ih =>
      cases element with
      | text c => exact Nat.max_le.mpr ⟨Nat.zero_le 2, ih index⟩
      | anyChar => exact Nat.max_le.mpr ⟨Nat.zero_le 2, ih index⟩
      | anyRun => exact Nat.max_le.mpr ⟨by decide, ih index⟩
      | placeholder name constraint => exact Nat.max_le.mpr ⟨Nat.le_refl 2, ih (index + 1)⟩

/-- The text for a row of elements without constraints writes the expression for their glob. -/
theorem compile?_sourceText (free : ∀ element ∈ elements, element.isConstrained = false) :
    compile? ignoreCase (sourceText elements) =
      if (globRegex ignoreCase (elements.map Element.sign)).fits then
        some (globRegex ignoreCase (elements.map Element.sign))
      else none := by
  let parts := Expr.assertion .lineStart :: (elementExprs 0 elements ++ [Expr.assertion .lineEnd])
  obtain ⟨names, reads⟩ := exists_reads_regexText free 0 [.assertion .lineStart] [] nofun
  have begins : readSign? false (sourceText elements) =
      some (.part (.assertion .lineStart), regexText 0 elements ++ ['$']) := rfl
  have reads : Reads .start (sourceText elements) ⟨parts.reverse, [], names, false⟩ [] :=
    .step begins rfl reads
  have body : (⟨parts.reverse, [], names, false⟩ : OpenGroup).body = .concat parts := by
    show Expr.ofParts parts.reverse.reverse = _
    rw [List.reverse_reverse]
    rcases two : elementExprs 0 elements ++ [Expr.assertion .lineEnd] with _ | ⟨e, es⟩
    · cases List.append_ne_nil_of_right_ne_nil _ (List.cons_ne_nil _ _) two
    · simp only [parts, two, Expr.ofParts]
  have shallow : (Expr.concat parts).depth ≤ nestingLimit := by
    have depths : Expr.depths parts ≤ 2 :=
      Nat.max_le.mpr ⟨Nat.zero_le 2, depths_elementExprs elements 0⟩
    have limit : 2 + 1 ≤ nestingLimit := by decide
    exact Nat.le_trans (Nat.succ_le_succ depths) limit
  obtain ⟨scope, means⟩ := exists_meanings?_elementExprs ignoreCase elements 0
  have whole : (Expr.concat parts).meaning? ⟨.initial ignoreCase, 0⟩ =
      some (globRegex ignoreCase (elements.map Element.sign), scope) := by
    have start : (Expr.assertion .lineStart).meaning? ⟨.initial ignoreCase, 0⟩ =
        some (.anchor .textStart, ⟨.initial ignoreCase, 0⟩) := rfl
    rw [Expr.meaning?, meanings?_cons start means]
    rfl
  have parsed := reads.parse?_eq (body ▸ shallow)
  rw [compile?, parsed, body]
  simp only [bind, Option.bind_some, whole]
  rfl

/-! ## Segments -/

/-- A token without constraints is compiled to the program for the glob of its elements, unless that
is too large. -/
theorem compile_of_writes (writes : Writes elements token)
    (free : ∀ element ∈ elements, element.isConstrained = false) (ne : token ≠ ['*'])
    (kind : isTemplate token = true) :
    Segment.compile ignoreCase token =
      if (globRegex ignoreCase (elements.map Element.sign)).fits then
        .ok (.pattern (.ofRegex (globRegex ignoreCase (elements.map Element.sign)))
          (variableNames elements))
      else .error (.invalidRegex (sourceText elements)) := by
  rw [Segment.compile, if_neg ne, if_pos kind, Draft.ofToken_eq, readElements_of_writes writes]
  simp only [Except.map, bind, Except.bind, Program.compile?, compile?_sourceText free]
  split_ifs <;> rfl

end Interception.Ant
