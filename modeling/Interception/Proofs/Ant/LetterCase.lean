import Interception.Proofs.Ant.Folding
import Interception.Proofs.Ant.Replacement

/-!
# Matching without regard to case

On ASCII, and as long as no variable has a constraint, a matcher for which case does not count
answers as one for which it does answers for pattern and path in small letters. The search does not
know of it: it goes over tokens that are alike.

There is one difference, in what is refused. A letter whose case does not count is a set of letters
and takes more memory, so that a template may be too large that is not so in small letters where
case counts.
-/

namespace Interception.Ant

open Unicode

variable {ignoreCase : Bool}

/-! ## Walks -/

/-- What two tokens of patterns are is alike. -/
inductive Token.Alike (ignoreCase : Bool) : Token → Token → Prop where
  | spread : Token.Alike ignoreCase .spread .spread
  | one {compiled other : Except Fault Segment} (own : Ant.Alike ignoreCase compiled other) :
      Token.Alike ignoreCase (.one compiled) (.one other)

theorem Alike.isAny_one {compiled other : Except Fault Segment}
    (h : Alike ignoreCase compiled other) :
    (Token.one other).isAny = (Token.one compiled).isAny := by
  cases h with
  | fault => rfl
  | segment isAny => exact isAny

/-- A search on a list of things that were changed is a search that changes them itself. -/
theorem firstTail_map {α β γ ε : Type} (f : List β → Except ε (Option γ)) (change : α → β)
    (path : List α) :
    firstTail f (path.map change) = firstTail (fun rest => f (rest.map change)) path := by
  induction path with
  | nil => rfl
  | cons x path ih =>
      rw [List.map_cons, firstTail, firstTail, ih]
      rfl

variable {ending : Ending} {tokens others : List Token} {path : List (List Char)}

/-- Two answers are the same, or faults of one kind. -/
inductive SameKind : Except Fault Bool → Except Fault Bool → Prop where
  | ok (answer : Bool) : SameKind (.ok answer) (.ok answer)
  | fault {fault other : Fault} (kind : fault.SameKind other) :
      SameKind (.error fault) (.error other)

/-- What is of one kind with the same answer is of one kind. -/
theorem SameKind.trans_symm {answer other middle : Except Fault Bool} (h : SameKind answer middle)
    (h' : SameKind other middle) : SameKind answer other := by
  cases h with
  | ok answer =>
      cases h'
      exact .ok answer
  | fault kind =>
      cases h' with
      | fault kind' => exact .fault (by cases kind <;> cases kind' <;> constructor)

/-- Searches that come to the same on every tail come to the same. -/
theorem sameKind_firstTail {α β γ : Type} {f : List α → Except Fault (Option β)}
    {g : List α → Except Fault (Option γ)} {path : List α}
    (h : ∀ rest, rest <:+ path → SameKind ((f rest).map Option.isSome) ((g rest).map Option.isSome)) :
    SameKind ((firstTail f path).map Option.isSome) ((firstTail g path).map Option.isSome) := by
  induction path with
  | nil => exact h [] List.suffix_rfl
  | cons x xs ih =>
      have here := h (x :: xs) List.suffix_rfl
      have later := ih fun rest isEnd => h rest (isEnd.trans (List.suffix_cons x xs))
      rw [firstTail, firstTail]
      rcases first : f (x :: xs) with fault | _ | found <;>
        rcases other : g (x :: xs) with fault' | _ | found' <;> rw [first, other] at here <;>
        cases here
      · next kind => exact .fault kind
      · exact later
      · exact .ok true

/-- Walks over tokens that are alike come to the same. -/
theorem sameKind_walk_small (h : List.Forall₂ (Token.Alike ignoreCase) tokens others)
    (ascii : ∀ text ∈ path, IsAscii text) :
    SameKind ((walk true ending tokens path).map Option.isSome)
      ((walk ignoreCase ending others (path.map small)).map Option.isSome) := by
  induction h generalizing path with
  | nil => cases path <;> exact .ok _
  | @cons token other tokens others own rest ih =>
      cases own with
      | spread =>
          rw [walk_spread, walk_spread, firstTail_map]
          refine sameKind_firstTail fun path' isEnd => ih fun text mem => ?_
          exact ascii text (isEnd.subset mem)
      | @one compiled compiled' own =>
          cases path with
          | nil =>
              have empty : others.isEmpty = tokens.isEmpty := by
                cases rest <;> rfl
              rw [List.map_nil, walk, walk, own.isAny_one, empty]
              exact .ok _
          | cons text path =>
              obtain ⟨isText, ascii⟩ := List.forall_mem_cons.mp ascii
              cases own with
              | fault kind => exact .fault kind
              | segment isAny accepts =>
                  rw [List.map_cons, map_isSome_walk_one_cons, map_isSome_walk_one_cons,
                    accepts text isText]
                  split_ifs
                  · exact ih ascii
                  · exact .ok false

end Interception.Ant

namespace Interception.AntMatcher

open Ant Unicode

variable {m : AntMatcher} {pattern path : List Char}

/-! ## Patterns -/

/-- No colon stands between a brace of the text and the brace that closes it. -/
def NoColonInBraces (text : List Char) : Prop :=
  ∀ left body right, text = left ++ '\x7b' :: (body ++ '\x7d' :: right) →
    balancedFrom 0 body = true → ':' ∉ body

/-- No variable of such a pattern has a constraint. -/
theorem NoColonInBraces.free {text token : List Char} (h : NoColonInBraces text)
    (part : token <:+: text) {elements : List Element} (writes : Writes elements token) :
    ∀ element ∈ elements, element.isConstrained = false := by
  intro element mem
  cases element with
  | placeholder name constraint =>
      cases constraint with
      | none => rfl
      | some constraint =>
          obtain ⟨before, behind, rfl⟩ := part
          obtain ⟨front, back, rfl⟩ := List.append_of_mem mem
          obtain ⟨balanced, _⟩ := writes.writable _ mem
          refine absurd ?_ (h (before ++ front.flatMap Element.writing)
            (Element.body name (some constraint))
            (back.flatMap Element.writing ++ behind) ?_ balanced)
          · exact List.mem_append_right name List.mem_cons_self
          · rw [← writes.written, List.flatMap_append, List.flatMap_cons, Element.writing]
            simp only [List.append_assoc, List.cons_append, List.nil_append]
  | _ => rfl

theorem noColonInBraces_small_iff : NoColonInBraces (small pattern) ↔ NoColonInBraces pattern := by
  constructor
  · rintro h left body right rfl balanced mem
    refine h (small left) (small body) (small right) ?_ ?_ ((mem_small_iff rfl).mpr mem)
    · simp only [small, List.map_append, List.map_cons]
      rfl
    · rw [balancedFrom_small]
      exact balanced
  · intro h left body right split balanced mem
    obtain ⟨before, rest, rfl, rfl, own⟩ := List.map_eq_append_iff.mp split
    obtain ⟨brace, rest', rfl, opens, within⟩ := List.map_eq_cons_iff.mp own
    obtain ⟨inner, rest, rfl, rfl, further⟩ := List.map_eq_append_iff.mp within
    obtain ⟨brace', behind, rfl, closes, rfl⟩ := List.map_eq_cons_iff.mp further
    obtain rfl := (lowercaseAscii_eq_iff rfl).mp opens
    obtain rfl := (lowercaseAscii_eq_iff rfl).mp closes
    exact h before inner behind rfl ((balancedFrom_small 0 inner).symm.trans balanced)
      ((mem_small_iff rfl).mp mem)

/-- The matcher with case counting or not. -/
def withCase (m : AntMatcher) (caseSensitive : Bool) : AntMatcher := { m with caseSensitive }

/-- The tokens of a pattern in small letters are alike, if no token and its counterpart differ in
whether they are too large. -/
theorem alike_tokens (isPattern : IsAscii pattern) (noColon : NoColonInBraces pattern)
    {ignoreCase : Bool} (size : ∀ token ∈ m.tokens pattern,
      isTooLarge ignoreCase (small token) = isTooLarge true token) :
    List.Forall₂ (Token.Alike ignoreCase)
      ((m.tokens pattern).map (Token.ofText (Segment.compile true)))
      (((m.tokens pattern).map small).map (Token.ofText (Segment.compile ignoreCase))) := by
  rw [List.map_map, List.forall₂_map_left_iff, List.forall₂_map_right_iff, List.forall₂_same]
  intro token mem
  have part := infix_of_mem_tokens mem
  have ascii := isPattern.subset part.subset
  rw [Function.comp_apply, Token.ofText, Token.ofText]
  by_cases isSpread : token = spreadToken
  · rw [isSpread, if_pos rfl, if_pos (by decide)]
    exact .spread
  · have other : small token ≠ spreadToken := (small_eq_iff (by decide)).not.mpr isSpread
    rw [if_neg isSpread, if_neg other]
    exact .one (alike_compile ascii (fun _ writes => noColon.free part writes) (size token mem))

theorem ending_small (notLetter : m.separator.isAlpha = false) (isPattern : IsAscii pattern) :
    m.ending (small pattern) (small path) = m.ending pattern path := by
  have separators : ∀ text : List Char, ∀ c ∈ text,
      lowercaseAscii c = m.separator ↔ c = m.separator :=
    fun _ c _ => lowercaseAscii_eq_iff notLetter
  have spread : ((m.tokens pattern).map small).contains spreadToken =
      (m.tokens pattern).contains spreadToken := by
    rw [Bool.eq_iff_iff, List.contains_iff_mem, List.contains_iff_mem, List.mem_map]
    constructor
    · rintro ⟨token, mem, same⟩
      exact (small_eq_iff (by decide)).mp same ▸ mem
    · intro mem
      exact ⟨spreadToken, mem, by decide⟩
  rw [ending, ending, tokens_small notLetter isPattern, spread]
  congr 1
  · exact Text.endsWith_map (separators pattern)
  · exact Text.endsWith_map (separators path)

/-- What is captured without regard to case is captured in small letters, where case counts or
not. -/
theorem sameKind_capture_small (notLetter : m.separator.isAlpha = false)
    (isPattern : IsAscii pattern) (isPath : IsAscii path) (noColon : NoColonInBraces pattern)
    (caseSensitive : Bool) (size : ∀ token ∈ m.tokens pattern,
      isTooLarge (!caseSensitive) (small token) = isTooLarge true token) :
    SameKind (((m.withCase false).capture pattern path).map Option.isSome)
      (((m.withCase caseSensitive).capture (small pattern) (small path)).map Option.isSome) := by
  have begins : ∀ text, Text.startsWith m.separator (small text) =
      Text.startsWith m.separator text :=
    fun text => Text.startsWith_map fun c _ => lowercaseAscii_eq_iff notLetter
  by_cases starts : Text.startsWith m.separator pattern = Text.startsWith m.separator path
  · have starts' : Text.startsWith m.separator (small pattern) =
        Text.startsWith m.separator (small path) := by
      rw [begins, begins, starts]
    rw [capture_eq_walk (m := m.withCase caseSensitive) starts',
      capture_eq_walk (m := m.withCase false) starts]
    show SameKind
      ((walk true (m.ending pattern path)
        ((m.tokens pattern).map (Token.ofText (Segment.compile true)))
        (m.tokens path)).map Option.isSome)
      ((walk (!caseSensitive) (m.ending (small pattern) (small path))
        ((m.tokens (small pattern)).map (Token.ofText (Segment.compile (!caseSensitive))))
        (m.tokens (small path))).map Option.isSome)
    rw [ending_small notLetter isPattern, tokens_small notLetter isPattern,
      tokens_small notLetter isPath]
    refine sameKind_walk_small (alike_tokens isPattern noColon size) fun text mem => ?_
    exact isPath.subset (infix_of_mem_tokens mem).subset
  · have starts' : Text.startsWith m.separator (small pattern) ≠
        Text.startsWith m.separator (small path) := by
      rw [begins, begins]
      exact starts
    rw [capture_of_startsWith_ne (m := m.withCase caseSensitive) starts',
      capture_of_startsWith_ne (m := m.withCase false) starts]
    exact .ok false

/-- Two patterns are answered alike: yes, no, or with one kind of fault that is named in the pattern.
What is said about a regular expression may differ. -/
inductive AnsweredAlike (pattern other : List Char) :
    Except PatternError Bool → Except PatternError Bool → Prop where
  | ok (answer : Bool) : AnsweredAlike pattern other (.ok answer) (.ok answer)
  | unclosedVariable :
      AnsweredAlike pattern other (.error (.unclosedVariable (String.ofList pattern)))
        (.error (.unclosedVariable (String.ofList other)))
  | invalidRegex (reason reason' : String) :
      AnsweredAlike pattern other (.error (.invalidRegex (String.ofList pattern) reason))
        (.error (.invalidRegex (String.ofList other) reason'))

variable {m' : AntMatcher} {pattern' path' : List Char} {result result' : Except Fault Bool}

theorem AnsweredAlike.of_sameKind (h : SameKind result result') :
    AnsweredAlike pattern pattern' (m.named pattern result) (m'.named pattern' result') := by
  obtain answer | @⟨_, _, kind⟩ := h
  · exact .ok answer
  · cases kind with
    | unclosedVariable => exact .unclosedVariable
    | invalidRegex source source' => exact .invalidRegex _ _

theorem AnsweredAlike.ok_left {answer : Bool} {other : Except PatternError Bool}
    (h : AnsweredAlike pattern pattern' (.ok answer) other) : other = .ok answer := by
  cases h
  rfl

theorem AnsweredAlike.ok_right {answer : Bool} {own : Except PatternError Bool}
    (h : AnsweredAlike pattern pattern' own (.ok answer)) : own = .ok answer := by
  cases h
  rfl

/-- On ASCII, where no colon stands in braces and the separator is no letter, a matcher that ignores
case answers in one way for all spellings that differ in the case of letters only. It answers as the
matcher that does not ignore case answers for pattern and path in lower case, yes, no or one kind of
fault, if no token is too large without regard to case. -/
theorem isMatch_ignoring_case (m : AntMatcher) (pattern path : List Char)
    (notLetter : m.separator.isAlpha = false) (isPattern : IsAscii pattern)
    (isPath : IsAscii path) (noColon : NoColonInBraces pattern) :
    ((∀ token ∈ m.tokens pattern, isTooLarge true token = false) →
      AnsweredAlike pattern (lowercase pattern) ((m.withCase false).isMatch pattern path)
        ((m.withCase true).isMatch (lowercase pattern) (lowercase path))) ∧
    ∀ pattern' path', small pattern' = small pattern → small path' = small path →
      AnsweredAlike pattern pattern' ((m.withCase false).isMatch pattern path)
        ((m.withCase false).isMatch pattern' path') := by
  simp only [isMatch_eq_capture]
  constructor
  · intro fits
    rw [lowercase_eq_small isPattern, lowercase_eq_small isPath]
    refine .of_sameKind (sameKind_capture_small notLetter isPattern isPath noColon true ?_)
    intro token mem
    have ascii := isPattern.subset (infix_of_mem_tokens mem).subset
    rw [fits token mem]
    exact isTooLarge_small_of_not ascii (fits token mem)
  · intro pattern' path' samePattern samePath
    have noColon' : NoColonInBraces pattern' := by
      rw [← noColonInBraces_small_iff, samePattern]
      exact noColonInBraces_small_iff.mpr noColon
    have isPattern' := isAscii_of_small isPattern samePattern
    have own := sameKind_capture_small notLetter isPattern isPath noColon false fun token mem =>
      isTooLarge_small (isPattern.subset (infix_of_mem_tokens mem).subset)
    have other := sameKind_capture_small notLetter isPattern' (isAscii_of_small isPath samePath)
      noColon' false fun token mem =>
        isTooLarge_small (isPattern'.subset (infix_of_mem_tokens mem).subset)
    rw [samePattern, samePath] at other
    exact .of_sameKind (own.trans_symm other)

theorem noColonInBraces_of_notMem (h : ':' ∉ pattern) : NoColonInBraces pattern := by
  rintro left body right rfl _ mem
  exact h (List.mem_append_right left
    (List.mem_cons_of_mem _ (List.mem_append_left _ mem)))

/-- The pattern `/ Ab{V}?/**/K` without regard to case, where tokens are trimmed: what it matches is
found out in small letters, for it and for another spelling. -/
theorem isMatch_ignoring_case_mixed :
    let m : AntMatcher := { default with caseSensitive := false, trimTokens := true }
    m.isMatch "/ Ab{V}?/**/K".toList "/aBcd/X/k".toList = .ok true ∧
      m.isMatch "/ aB{v}?/**/k".toList "/ABCD/x/K".toList = .ok true := by
  intro m
  have both := isMatch_ignoring_case m "/ Ab{V}?/**/K".toList "/aBcd/X/k".toList
    (by decide) (by decide) (by decide) (noColonInBraces_of_notMem (by decide))
  have lower := both.1 (by decide +kernel)
  have spelled := both.2 "/ aB{v}?/**/k".toList "/ABCD/x/K".toList (by decide) (by decide)
  have answered : (m.withCase true).isMatch (lowercase "/ Ab{V}?/**/K".toList)
      (lowercase "/aBcd/X/k".toList) = .ok true := by decide +kernel
  have own : m.isMatch "/ Ab{V}?/**/K".toList "/aBcd/X/k".toList = .ok true := by
    rw [answered] at lower
    exact lower.ok_right
  refine ⟨own, ?_⟩
  replace spelled : AnsweredAlike _ _ (m.isMatch _ _) (m.isMatch _ _) := spelled
  rw [own] at spelled
  exact spelled.ok_left

/-! ### Templates that are too large -/

section TooLarge

open Regex Footprint

/-- A question mark and so many letters: as a pattern one token. -/
def longPattern (n : Nat) : List Char := '?' :: List.replicate n 'a'

/-- A path that the pattern is for. -/
def longPath (n : Nat) : List Char := 'a' :: List.replicate n 'a'

def longSigns (n : Nat) : List Glob.Sign := .anyChar :: List.replicate n (.char 'a')

theorem variableNames_replicate (n : Nat) :
    variableNames (List.replicate n (Element.text 'a')) = [] := by
  induction n with
  | zero => rfl
  | succ n ih => exact ih

/-- The regular expression for the pattern. -/
def longSource (n : Nat) : List Char := '^' :: '.' :: List.replicate n 'a' ++ ['$']

theorem regexText_replicate (n : Nat) :
    regexText 0 (List.replicate n (Element.text 'a')) = List.replicate n 'a' := by
  induction n with
  | zero => rfl
  | succ n ih => exact congrArg ('a' :: ·) ih

theorem compile_longPattern (ignoreCase : Bool) (n : Nat) :
    Segment.compile ignoreCase (longPattern n) =
      if (globRegex ignoreCase (longSigns n)).fits then
        .ok (.pattern (.ofRegex (globRegex ignoreCase (longSigns n))) [])
      else .error (.invalidRegex (longSource n)) := by
  let elements : List Element := .anyChar :: List.replicate n (.text 'a')
  have writes : Writes elements (longPattern n) := by
    constructor
    · refine List.forall_mem_cons.mpr ⟨trivial, fun element mem => ?_⟩
      rw [List.eq_of_mem_replicate mem]
      decide
    · show '?' :: (List.replicate n (Element.text 'a')).flatMap Element.writing = longPattern n
      rw [List.flatMap_replicate]
      simp [Element.writing, longPattern]
  have free : ∀ element ∈ elements, element.isConstrained = false := by
    refine List.forall_mem_cons.mpr ⟨rfl, fun element mem => ?_⟩
    rw [List.eq_of_mem_replicate mem]
    rfl
  have signs : elements.map Element.sign = longSigns n := by
    show _ :: (List.replicate n (Element.text 'a')).map Element.sign = _
    rw [List.map_replicate]
    rfl
  have names : variableNames elements = [] := variableNames_replicate n
  have source : sourceText elements = longSource n := by
    rw [sourceText, regexText, regexText_replicate, longSource]
  rw [compile_of_writes writes free (by simp [longPattern]) rfl, signs, names, source]

theorem globWeight_longSigns (direction : Direction) (ignoreCase : Bool) (n : Nat) :
    globWeight direction ignoreCase (longSigns n) =
      Glob.Sign.anyChar.weight direction ignoreCase +
        n * (Glob.Sign.char 'a').weight direction ignoreCase := by
  rw [longSigns, globWeight_cons, globWeight, List.map_replicate, List.sum_replicate_nat]

theorem isAscii_longSigns (n : Nat) : ∀ sign ∈ longSigns n, sign.IsAscii := by
  refine List.forall_mem_cons.mpr ⟨trivial, fun sign mem => ?_⟩
  rw [List.eq_of_mem_replicate mem]
  show 'a'.toNat < 128
  decide

/-- A letter takes 80 bytes without regard to case. -/
theorem not_fits_longSigns {n : Nat} (large : limit < 1128 + 80 * n) :
    (globRegex true (longSigns n)).fits = false := by
  rw [Bool.eq_false_iff]
  intro fits
  have le := globWeight_le_of_fits (isAscii_longSigns n) fits
  have mark : Glob.Sign.anyChar.weight .backwards true = 1000 := notLineFeed_rows.2.2
  have letter : (Glob.Sign.char 'a').weight .backwards true = 80 := by decide +kernel
  rw [globWeight_longSigns, mark, letter] at le
  omega

/-- A letter takes 32 bytes where case counts. -/
theorem fits_longSigns {n : Nat} (room : 1128 + 32 * n ≤ limit) :
    (globRegex false (longSigns n)).fits = true := by
  have mark : Glob.Sign.anyChar.weight .forwards false = 864 ∧
      Glob.Sign.anyChar.weight .backwards false = 1000 := notLineFeed_rows.2
  have letter (direction : Direction) : (Glob.Sign.char 'a').weight direction false = 32 := rfl
  apply fits_globRegex (isAscii_longSigns n)
  · rw [globWeight_longSigns, mark.1, letter]
    omega
  · rw [globWeight_longSigns, mark.2, letter]
    omega

/-- A character of pattern and path is the question mark or the letter. -/
theorem mem_long {n : Nat} {c : Char} (mem : c ∈ longPattern n ∨ c ∈ longPath n) :
    c = '?' ∨ c = 'a' := by
  obtain mem | mem := mem
  · exact (List.mem_cons.mp mem).imp_right List.eq_of_mem_replicate
  · exact .inr ((List.mem_cons.mp mem).elim id List.eq_of_mem_replicate)

theorem notMem_long {x : Char} (mark : x ≠ '?') (letter : x ≠ 'a') (n : Nat) :
    x ∉ longPattern n ∧ x ∉ longPath n :=
  ⟨fun mem => (mem_long (.inl mem)).elim mark letter,
    fun mem => (mem_long (.inr mem)).elim mark letter⟩

theorem isAscii_long (n : Nat) : IsAscii (longPattern n) ∧ IsAscii (longPath n) := by
  have ascii : ∀ c, c = '?' ∨ c = 'a' → c.toNat < 128 := by
    rintro c (rfl | rfl) <;> decide
  exact ⟨fun c mem => ascii c (mem_long (.inl mem)), fun c mem => ascii c (mem_long (.inr mem))⟩

theorem lowercase_long (n : Nat) :
    lowercase (longPattern n) = longPattern n ∧ lowercase (longPath n) = longPath n := by
  rw [lowercase_eq_small (isAscii_long n).1, lowercase_eq_small (isAscii_long n).2]
  constructor
  · rw [longPattern, small, List.map_cons, List.map_replicate]
    rfl
  · rw [longPath, small, List.map_cons, List.map_replicate]
    rfl

theorem tokens_long (caseSensitive : Bool) (n : Nat) :
    (default.withCase caseSensitive).tokens (longPattern n) = [longPattern n] ∧
      (default.withCase caseSensitive).tokens (longPath n) = [longPath n] := by
  obtain ⟨pattern, path⟩ := notMem_long (x := '/') (by decide) (by decide) n
  have separator : (default.withCase caseSensitive).separator = '/' := rfl
  rw [tokens_eq_tokensOf, tokens_eq_tokensOf, separator, Text.pieces_of_notMem pattern,
    Text.pieces_of_notMem path]
  exact ⟨rfl, rfl⟩

/-- The pattern is refused without regard to case. -/
theorem isMatch_long_insensitive {n : Nat} (large : limit < 1128 + 80 * n) :
    (default.withCase false).isMatch (longPattern n) (longPath n) =
      .error ((default.withCase false).faultIn (longPattern n) (.invalidRegex (longSource n))) := by
  have starts : Text.startsWith '/' (longPattern n) = Text.startsWith '/' (longPath n) := rfl
  have notSpread : longPattern n ≠ spreadToken := by simp [longPattern, spreadToken]
  have refused : Segment.compile true (longPattern n) = .error (.invalidRegex (longSource n)) := by
    rw [compile_longPattern, not_fits_longSigns large]
    rfl
  apply isMatch_of_capture_error
  rw [capture_eq_walk starts, (tokens_long false n).1, (tokens_long false n).2]
  show walk true _ [Token.ofText (Segment.compile true) (longPattern n)] [longPath n] = _
  rw [Token.ofText, if_neg notSpread, refused]
  rfl

/-- The question mark takes the first letter, and the letters take each other. -/
theorem takes_longSigns (n : Nat) :
    ∃ parts, Glob.Cut false (longSigns n) (longPath n) parts := by
  have letters : List.Forall₂ (Glob.Sign.Takes false) (List.replicate n (.char 'a'))
      (List.replicate n ['a']) ∧ (List.replicate n ['a']).flatten = List.replicate n 'a' := by
    induction n with
    | zero => exact ⟨.nil, rfl⟩
    | succ n ih => exact ⟨.cons ⟨'a', rfl, standsFor_false _ _⟩ ih.1, congrArg ('a' :: ·) ih.2⟩
  exact ⟨_, .cons ⟨'a', rfl, rfl⟩ letters.1, congrArg ('a' :: ·) letters.2⟩

/-- The pattern matches where case counts. -/
theorem isMatch_long_sensitive {n : Nat} (room : 1128 + 32 * n ≤ limit) :
    (default.withCase true).isMatch (longPattern n) (longPath n) = .ok true := by
  have accepts : (default.withCase true).Accepts (longPattern n) (longPath n) := by
    refine ⟨.pattern (.ofRegex (globRegex false (longSigns n))) [], ?_, ?_⟩
    · show Segment.compile false (longPattern n) = _
      rw [compile_longPattern, fits_longSigns room, if_pos rfl]
    · show (Segment.capture? false _ (longPath n)).isSome = true
      rw [capture?_globRegex, Option.isSome_map, Glob.isSome_match?_iff]
      exact takes_longSigns n
  have ends : ∀ text : List Char, '/' ∉ text → Text.endsWith '/' text = false := by
    intro text absent
    rw [Bool.eq_false_iff]
    intro isLast
    exact absent (List.mem_of_getLast? (eq_of_beq isLast))
  obtain ⟨pattern, path⟩ := notMem_long (x := '/') (by decide) (by decide) n
  rw [isMatch_eq_true_iff_capture, exists_capture_iff]
  refine ⟨rfl, .inl ⟨?_, .inr ((ends _ pattern).trans (ends _ path).symm)⟩⟩
  rw [(tokens_long true n).1, (tokens_long true n).2, cuts_cons_iff]
  exact ⟨[longPath n], [], rfl, .inr ⟨_, rfl, accepts⟩, [], rfl, .nil⟩

/-- With 135,000 letters the two answers differ, although pattern and path are in lower case. -/
theorem isMatch_ignoring_case_too_large :
    let m : AntMatcher := default
    let pattern := longPattern 135000
    let path := longPath 135000
    m.separator.isAlpha = false ∧ IsAscii pattern ∧ IsAscii path ∧ NoColonInBraces pattern ∧
      (m.withCase false).isMatch pattern path =
        .error ((m.withCase false).faultIn pattern (.invalidRegex (longSource 135000))) ∧
      (m.withCase true).isMatch (lowercase pattern) (lowercase path) = .ok true := by
  intro m pattern path
  obtain ⟨isPattern, isPath⟩ := isAscii_long 135000
  obtain ⟨noColon, _⟩ := notMem_long (x := ':') (by decide) (by decide) 135000
  obtain ⟨samePattern, samePath⟩ := lowercase_long 135000
  refine ⟨rfl, isPattern, isPath, noColonInBraces_of_notMem noColon, ?_, ?_⟩
  · exact isMatch_long_insensitive (by decide)
  · rw [samePattern, samePath]
    exact isMatch_long_sensitive (by decide)

end TooLarge

end Interception.AntMatcher
