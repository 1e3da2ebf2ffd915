import Interception.Ant.Segment
import Interception.Proofs.Ant.Glob

/-!
# Globs as regular expressions

The regular expression for a glob is a row: an anchor at either end, and between them an expression
for each sign, with a group for each variable. Searching with its automaton finds what the glob
matches, and the groups have taken what its variables capture.
-/

namespace Interception.Ant

open Regex

/-- The regular expressions for a row of signs; `index` is the number of variables before it. -/
def signRegexes (ignoreCase : Bool) (index : Nat) : List Glob.Sign → List Regex
  | [] => []
  | .char c :: signs => letter ignoreCase c :: signRegexes ignoreCase index signs
  | .anyChar :: signs => .set .notLineFeed :: signRegexes ignoreCase index signs
  | .anyRun :: signs =>
    repetition (.set .notLineFeed) 0 none true :: signRegexes ignoreCase index signs
  | .variable :: signs =>
    .group (index + 1) (some (groupName index)) (repetition (.set .notLineFeed) 0 none true) ::
      signRegexes ignoreCase (index + 1) signs

/-- The regular expression for a glob. -/
def globRegex (ignoreCase : Bool) (signs : List Glob.Sign) : Regex :=
  concat (.anchor .textStart :: signRegexes ignoreCase 0 signs ++ [.anchor .textEnd])

variable {ignoreCase : Bool} {signs : List Glob.Sign} {index : Nat}

/-! ## What is found -/

theorem notLineFeed_bounds : CharSet.notLineFeed.bounds = #[0, 10, 11, 0xD800, 0xE000, 0x110000] := by
  decide +kernel

theorem isEmpty_notLineFeed : CharSet.notLineFeed.isEmpty = false := by
  rw [CharSet.isEmpty, notLineFeed_bounds]
  rfl

/-- A point stands for every character but a line feed. -/
theorem contains_notLineFeed (x : Char) : CharSet.notLineFeed.contains x = !Glob.isBreak x := by
  rw [CharSet.notLineFeed, CharSet.contains_compl (CharSet.isSorted_only _), CharSet.contains_only,
    Bool.beq_comm]
  rfl

/-- The marks that the groups of the variables have made, if the variables have taken spans. -/
def marksOf (index : Nat) : List Span → List Mark
  | [] => []
  | s :: spans =>
    marksOf (index + 1) spans ++ [⟨⟨index + 1, true⟩, s.stop⟩, ⟨⟨index + 1, false⟩, s.start⟩]

theorem finds_signRegexes {a : Automaton}
    (h : a.Finds fun c => if Anchor.textEnd.holds c then some [] else none) :
    ((signRegexes ignoreCase index signs).foldr build a).Finds fun c =>
      (Glob.spans? ignoreCase signs c).map (marksOf index) := by
  have point : CharSet.notLineFeed.contains = (!Glob.isBreak ·) := funext contains_notLineFeed
  induction signs generalizing index with
  | nil =>
      simp only [Glob.spans?, apply_ite (Option.map (marksOf index)), Option.map_some,
        Option.map_none]
      exact h
  | cons sign signs ih =>
      cases sign with
      | char y =>
          simp only [Glob.spans?, map_afterOne]
          exact ih.build_letter ignoreCase y
      | anyChar =>
          simp only [Glob.spans?, map_afterOne, ← point]
          exact ih.pushSet .notLineFeed
      | anyRun =>
          simp only [Glob.spans?, map_afterRun, ← point]
          exact ih.build_run isEmpty_notLineFeed
      | «variable» =>
          have group := ((@ih (index + 1)).pushMark ⟨index + 1, true⟩ |>.build_run
            isEmpty_notLineFeed).pushMark ⟨index + 1, false⟩
          have marks (c later : Cursor) : marksOf index ∘ (⟨c, later⟩ :: ·) =
              (· ++ [⟨⟨index + 1, false⟩, c⟩]) ∘ (· ++ [⟨⟨index + 1, true⟩, later⟩]) ∘
                marksOf (index + 1) := by
            funext spans
            simp [marksOf]
          simp only [map_afterRun, Option.map_map, point] at group
          simp only [Glob.spans?, map_afterRun, Option.map_map, marks]
          exact group

/-- A search finds what the glob matches. -/
theorem search?_globRegex (text : List Char) :
    (globRegex ignoreCase signs).automaton.search? text =
      (Glob.spans? ignoreCase signs (.start text)).map (marksOf 0) := by
  let k (c : Cursor) := (Glob.spans? ignoreCase signs c).map (marksOf 0)
  refine Automaton.Finds.search?_eq (k := k) ?_ text
  rw [automaton, globRegex, Automaton.build_concat, List.cons_append, List.foldr_cons,
    List.foldr_append]
  refine Automaton.Finds.pushTest (finds_signRegexes ?_) .textStart
  exact Automaton.finds_accept.pushTest .textEnd

/-! ## Groups -/

theorem toList_groupName (index : Nat) :
    (groupName index).toList = ['p', 'g', 'v'] ++ Nat.toDigits 10 index := by
  rw [groupName, String.toList_append]
  exact congrArg ("pgv".toList ++ ·) String.toList_ofList

theorem groupName_inj {i j : Nat} : groupName i = groupName j ↔ i = j := by
  refine ⟨fun same => ?_, congrArg groupName⟩
  have names := congrArg String.toList same
  rw [toList_groupName, toList_groupName, List.append_cancel_left_eq] at names
  rw [← @Nat.ofDigitChars_ten_toDigits i, names, Nat.ofDigitChars_ten_toDigits]

section Rows

variable {name : String} {rs : List Regex}

theorem groupNamed?_ofParts : groupNamed? name (ofParts rs) = rs.findSome? (groupNamed? name) := by
  induction rs with
  | nil => rfl
  | cons r rs ih =>
      cases rs with
      | nil => cases own : groupNamed? name r <;> simp [ofParts, own]
      | cons s rs =>
          rw [List.findSome?_cons, ← ih]
          cases own : groupNamed? name r <;> simp [ofParts, groupNamed?, own]

theorem findSome?_joinLiterals :
    (joinLiterals rs).findSome? (groupNamed? name) = rs.findSome? (groupNamed? name) := by
  fun_induction joinLiterals rs with
  | case1 => rfl
  | case2 text rest more others joined ih =>
      rw [joined, List.findSome?_cons] at ih
      rw [List.findSome?_cons, List.findSome?_cons, ← ih]
      rfl
  | case3 text rest _ ih => rw [List.findSome?_cons, List.findSome?_cons, ih]
  | case4 r rest _ ih => rw [List.findSome?_cons, List.findSome?_cons, ih]

theorem findSome?_parts (r : Regex) :
    r.parts.findSome? (groupNamed? name) = groupNamed? name r := by
  induction r with
  | empty => rfl
  | seq r s ihr ihs =>
      rw [parts, List.findSome?_append, ihr, ihs, groupNamed?]
      cases groupNamed? name r <;> rfl
  | _ => exact List.findSome?_singleton

/-- A group of a row is one of its expressions. -/
theorem groupNamed?_concat : groupNamed? name (concat rs) = rs.findSome? (groupNamed? name) := by
  rw [concat, groupNamed?_ofParts, findSome?_joinLiterals]
  induction rs with
  | nil => rfl
  | cons r rs ih =>
      rw [List.flatMap_cons, List.findSome?_append, findSome?_parts, ih, List.findSome?_cons]
      cases groupNamed? name r <;> rfl

end Rows

theorem groupNamed?_letter (name : String) (c : Char) :
    groupNamed? name (letter ignoreCase c) = none := by
  rw [letter]
  split_ifs
  · rw [ofSet]
    split <;> rfl
  · rfl

/-- The groups are those of the variables. -/
theorem findSome?_signRegexes (j : Nat) :
    (signRegexes ignoreCase index signs).findSome? (groupNamed? (groupName j)) =
      if index ≤ j ∧ j < index + signs.count .variable then some (j + 1) else none := by
  induction signs generalizing index with
  | nil =>
      rw [if_neg (by simp)]
      rfl
  | cons sign signs ih =>
      cases sign with
      | «variable» =>
          simp only [signRegexes, List.findSome?_cons, groupNamed?, ih, List.count_cons_self,
            Option.some.injEq, groupName_inj]
          by_cases own : index = j
          · subst own
            simp
          · rw [if_neg own]
            have inside : index + 1 ≤ j ∧ j < index + 1 + signs.count .variable ↔
                index ≤ j ∧ j < index + (signs.count .variable + 1) := by omega
            simp only [repetition, takesNothing, inside]
            rfl
      | char c => simp [signRegexes, groupNamed?_letter, ih]
      | anyChar =>
          rw [signRegexes, List.findSome?_cons_of_isNone rfl, ih]
          simp
      | anyRun =>
          rw [signRegexes, List.findSome?_cons_of_isNone rfl, ih]
          simp

/-- There is one span for each variable. -/
theorem length_of_spans? {c : Cursor} {spans : List Span}
    (h : Glob.spans? ignoreCase signs c = some spans) : spans.length = signs.count .variable := by
  obtain ⟨parts, greedy, values⟩ := Glob.exists_isGreedy_of_spans? h
  rw [← greedy.toCut.length_valuesOf, values, List.length_map]

section Marks

variable {spans : List Span} {isEnd : Bool} {j : Nat}

/-- The places that a span has. -/
def placeOf (isEnd : Bool) (s : Span) : Cursor := if isEnd then s.stop else s.start

theorem lastMark?_append (slot : Slot) (marks others : List Mark) :
    lastMark? slot (marks ++ others) = (lastMark? slot marks).or (lastMark? slot others) := by
  rw [lastMark?, lastMark?, lastMark?, List.find?_append]
  cases marks.find? fun m => m.slot == slot <;> rfl

theorem lastMark?_marksOf_of_le (le : j ≤ index) :
    lastMark? ⟨j, isEnd⟩ (marksOf index spans) = none := by
  induction spans generalizing index with
  | nil => rfl
  | cons s spans ih =>
      have other : index + 1 ≠ j := by omega
      rw [marksOf, lastMark?_append, ih (by omega)]
      simp [lastMark?, other]

theorem lastMark?_marksOf :
    lastMark? ⟨index + 1 + j, isEnd⟩ (marksOf index spans) = spans[j]?.map (placeOf isEnd) := by
  induction spans generalizing index j with
  | nil => rfl
  | cons s spans ih =>
      rw [marksOf, lastMark?_append]
      cases j with
      | zero =>
          rw [Nat.add_zero, lastMark?_marksOf_of_le (Nat.le_refl _)]
          cases isEnd <;> simp [lastMark?, placeOf]
      | succ j =>
          have shift : index + 1 + (j + 1) = index + 1 + 1 + j := by omega
          rw [shift, ih, List.getElem?_cons_succ]
          have other : index + 1 ≠ index + 1 + 1 + j := by omega
          cases spans[j]? <;> simp [lastMark?, other]

/-- The group of a variable has taken its span. -/
theorem captured?_marksOf :
    captured? (marksOf index spans) (index + 1 + j) = spans[j]?.map Span.text := by
  rw [captured?, lastMark?_marksOf, lastMark?_marksOf]
  cases spans[j]? <;> rfl

end Marks

/-! ## Segments -/

/-- Values are taken by their numbers. -/
theorem filterMap_zipIdx (names values : List (List Char)) (index : Nat) :
    (names.zipIdx index).filterMap (fun (name, i) => values[i]?.map (name, ·)) =
      names.zip (values.drop index) := by
  induction names generalizing index with
  | nil => rfl
  | cons name names ih =>
      rw [List.zipIdx_cons, List.filterMap_cons, ih]
      simp only
      by_cases inside : index < values.length
      · rw [List.getElem?_eq_getElem inside, List.drop_eq_getElem_cons inside]
        rfl
      · have outside := Nat.le_of_not_lt inside
        rw [List.getElem?_eq_none outside, List.drop_eq_nil_of_le outside,
          List.drop_eq_nil_of_le (Nat.le_succ_of_le outside)]
        simp

/-- The group of each variable has taken what the variable captures. -/
theorem named?_globRegex {text : List Char} {spans : List Span}
    (h : Glob.spans? ignoreCase signs (.start text) = some spans) (j : Nat) :
    (Program.ofRegex (globRegex ignoreCase signs)).named? (marksOf 0 spans) (groupName j) =
      (spans.map Span.text)[j]? := by
  have group : groupNamed? (groupName j) (globRegex ignoreCase signs) =
      if j < spans.length then some (0 + 1 + j) else none := by
    rw [length_of_spans? h, globRegex, groupNamed?_concat, List.cons_append, List.findSome?_cons,
      List.findSome?_append, findSome?_signRegexes]
    simp [groupNamed?, Nat.add_comm]
  rw [Program.named?, Program.ofRegex, group, List.getElem?_map]
  split_ifs with inside
  · exact captured?_marksOf
  · rw [List.getElem?_eq_none (Nat.le_of_not_lt inside)]
    rfl

/-- A segment for a glob captures what the variables of the glob take, under their names. -/
theorem capture?_globRegex (ignoreCase' : Bool) (names : List (List Char)) (text : List Char) :
    (Segment.pattern (.ofRegex (globRegex ignoreCase signs)) names).capture? ignoreCase' text =
      (Glob.match? ignoreCase signs text).map names.zip := by
  rw [Segment.capture?, Glob.match?, Program.search?, Program.ofRegex, search?_globRegex]
  cases found : Glob.spans? ignoreCase signs (.start text) with
  | none => rfl
  | some spans =>
      have named := named?_globRegex found
      rw [Program.ofRegex] at named
      simp only [Option.map_some, Segment.captures, named, filterMap_zipIdx, List.drop_zero]

end Interception.Ant
