import Interception.Ant.Matcher
import Mathlib.Tactic.SplitIfs

/-!
# What matching does with its list

A match puts what it captures into one list and takes it back from there when an attempt comes to
nothing. A walk does without the list: it returns what the first alignment captures, if there is
one. The two come to the same. A match that fails leaves the list as it was, however much of it was
put there and taken back on the way, and one that succeeds has put behind it what the walk returns.
-/

namespace Interception.Ant

/-- A token of a pattern: a spread, written `**`, or what a token for one segment compiles to. -/
inductive Token where
  | spread
  | one (segment : Except Fault Segment)

namespace Token

/-- Whether the token is a lone asterisk. -/
def isAny : Token → Bool
  | .one (.ok segment) => segment.isAny
  | _ => false

/-- The token that a text of a pattern stands for, given how tokens are compiled. -/
def ofText (compile : List Char → Except Fault Segment) (token : List Char) : Token :=
  if token = spreadToken then .spread else .one (compile token)

end Token

/-- The first result that `f` has on a list, on what is left of it without its head, and so on. -/
def firstTail {α β ε : Type} (f : List α → Except ε (Option β)) : List α → Except ε (Option β)
  | [] => f []
  | x :: xs => do
    match ← f (x :: xs) with
    | some result => return some result
    | none => firstTail f xs

/-- What the first alignment captures, if there is one. A lone asterisk at the end of the pattern
also takes the empty rest of a path that ends with a separator. -/
def walk (ignoreCase : Bool) (ending : Ending) :
    List Token → List (List Char) → Except Fault (Option Captures)
  | [], [] => .ok (if ending.agrees then some [] else none)
  | [], _ :: _ => .ok none
  | .spread :: rest, path => firstTail (walk ignoreCase ending rest) path
  | .one segment :: rest, [] =>
    .ok (if rest.isEmpty && (Token.one segment).isAny && ending.pathEnds then some [] else none)
  | .one segment :: rest, text :: path => do
    let segment ← segment
    match segment.capture? ignoreCase text with
    | none => return none
    | some captures =>
      return (← walk ignoreCase ending rest path).map (captures ++ ·)

/-! ## The list of captures -/

/-- What a match answers and leaves of the list of captures, if the walk finds this. -/
def outcome (vars : Captures) (found : Option Captures) : Bool × Captures :=
  (found.isSome, vars ++ found.getD [])

/-- The match answers as the walk does from any list of captures on, which it leaves as it was or
with what the walk captures behind it. -/
def Follows (x : StateT Captures (Except Fault) Bool) (found : Except Fault (Option Captures)) :
    Prop :=
  ∀ vars, x.run vars = found.map (outcome vars)

variable {x : StateT Captures (Except Fault) Bool} {found : Except Fault (Option Captures)}
variable {α : Type}

/-- An attempt takes back what was put behind the list, and nothing that was there before. -/
theorem run_attempt (x : StateT Captures (Except Fault) Bool) (vars : Captures) :
    (attempt x).run vars = (x.run vars).map fun (answer, later) =>
      if answer then (true, later) else (false, later.take vars.length) := by
  show (x.run vars >>= fun (answer, later) => _) = _
  rcases x.run vars with fault | ⟨_ | _, later⟩ <;> rfl

theorem Follows.attempt (h : Follows x found) : Follows (attempt x) found := by
  intro vars
  rw [run_attempt, h vars]
  rcases found with fault | _ | captures
  · rfl
  · simp [Except.map, outcome]
  · rfl

theorem follows_anyTail {f : List α → StateT Captures (Except Fault) Bool}
    {g : List α → Except Fault (Option Captures)} (h : ∀ tail, Follows (f tail) (g tail))
    (path : List α) : Follows (anyTail f path) (firstTail g path) := by
  induction path with
  | nil => exact h []
  | cons x path ih =>
      intro vars
      have first := h (x :: path) vars
      show (f (x :: path)).run vars >>= (fun (answer, later) => _) = _
      rw [first, firstTail]
      rcases g (x :: path) with fault | _ | captures
      · rfl
      · show (anyTail f path).run (vars ++ []) = _
        rw [List.append_nil, ih vars]
        rfl
      · rfl

section Token

variable {compile : List Char → Except Fault Segment} {ignoreCase : Bool} {token text : List Char}
variable {vars : Captures} {rest : StateT Captures (Except Fault) Bool}

theorem run_matchSegment : (matchSegment compile ignoreCase token text).run vars =
    (compile token).map fun segment =>
      match segment.capture? ignoreCase text with
      | some own => (true, vars ++ own)
      | none => (false, vars) := by
  have lifted : StateT.run (liftM (compile token)) vars = (compile token).map (·, vars) := by
    cases compile token <;> rfl
  rw [matchSegment, StateT.run_bind, lifted]
  cases compile token with
  | error fault => rfl
  | ok segment =>
      simp only [Except.map, bind, Except.bind]
      cases segment.capture? ignoreCase text <;> rfl

/-- An attempt at one token and, if it takes the text, at the others behind it. Where the others
fail, what the token has captured is taken back. -/
theorem follows_token (h : Follows rest found) :
    Follows
      (attempt do
        if ← matchSegment compile ignoreCase token text then rest else return false)
      (do
        let segment ← compile token
        match segment.capture? ignoreCase text with
        | none => return none
        | some captures => return (← found).map (captures ++ ·)) := by
  intro vars
  have both : ((do
      if ← matchSegment compile ignoreCase token text then rest else return false) :
      StateT Captures (Except Fault) Bool).run vars =
      (matchSegment compile ignoreCase token text).run vars >>= fun (taken, later) =>
        if taken then rest.run later else .ok (false, later) := by
    rw [StateT.run_bind]
    congr 1
    funext ⟨taken, later⟩
    cases taken <;> rfl
  rw [run_attempt, both, run_matchSegment]
  cases compile token with
  | error fault => rfl
  | ok segment =>
      simp only [Except.map, bind, Except.bind]
      cases segment.capture? ignoreCase text with
      | none => simp [pure, Except.pure, outcome]
      | some own =>
          simp only [if_true, h (vars ++ own)]
          rcases found with fault | _ | captures
          · rfl
          · simp [Except.map, pure, Except.pure, outcome]
          · simp [Except.map, pure, Except.pure, outcome]

end Token

/-- A match follows the walk, if nothing but `*` compiles to the lone asterisk. -/
theorem follows_matchTokens {compile : List Char → Except Fault Segment}
    (isAny : ∀ token, (Token.one (compile token)).isAny = (token == ['*'])) (ignoreCase : Bool)
    (ending : Ending) (tokens path : List (List Char)) :
    Follows (matchTokens compile ignoreCase ending tokens path)
      (walk ignoreCase ending (tokens.map (Token.ofText compile)) path) := by
  induction tokens generalizing path with
  | nil =>
      intro vars
      cases path with
      | nil =>
          show Except.ok (true && ending.agrees, vars) = _
          rw [List.map_nil, walk]
          cases ending.agrees <;> simp [Except.map, outcome]
      | cons text path =>
          show Except.ok (false && ending.agrees, vars) = _
          simp [walk, Except.map, outcome]
  | cons token tokens ih =>
      unfold matchTokens
      rw [List.map_cons, Token.ofText]
      split_ifs with spread
      · rw [walk]
        exact follows_anyTail (fun tail => (ih tail).attempt) path
      · cases path with
        | nil =>
            intro vars
            show Except.ok (tokens.isEmpty && token == ['*'] && ending.pathEnds, vars) = _
            rw [walk, List.isEmpty_map, isAny]
            cases tokens.isEmpty && token == ['*'] && ending.pathEnds <;>
              simp [Except.map, outcome]
        | cons text path =>
            rw [walk]
            exact follows_token (ih path)

end Interception.Ant

namespace Interception.AntMatcher

open Ant

variable {m : AntMatcher} {pattern path : List Char}

/-- Only the token `*` compiles to the lone asterisk. -/
theorem compile_eq_any_iff {token : List Char} : m.compile token = .ok .any ↔ token = ['*'] := by
  rw [compile, Segment.compile]
  split_ifs with star template
  · simp [star]
  · refine ⟨fun h => ?_, fun h => absurd h star⟩
    cases drafted : Draft.ofToken token with
    | error fault => simp [drafted, bind, Except.bind] at h
    | ok draft =>
        simp only [drafted, bind, Except.bind] at h
        split at h <;> cases h
  · simp [star, pure, Except.pure]

theorem isAny_one_iff {compiled : Except Fault Segment} :
    (Token.one compiled).isAny = true ↔ compiled = .ok .any := by
  rcases compiled with fault | segment
  · simp [Token.isAny]
  · cases segment <;> simp [Token.isAny, Segment.isAny]

/-! ## What a pattern captures -/

/-- What the pattern's variables capture from the path, if the pattern matches it. -/
def capture (m : AntMatcher) (pattern path : List Char) : Except Fault (Option Captures) :=
  if Text.startsWith m.separator path != Text.startsWith m.separator pattern then .ok none
  else walk (!m.caseSensitive) (m.ending pattern path)
    ((m.tokens pattern).map (Token.ofText m.compile)) (m.tokens path)

theorem capture_eq_walk
    (h : Text.startsWith m.separator pattern = Text.startsWith m.separator path) :
    m.capture pattern path = walk (!m.caseSensitive) (m.ending pattern path)
      ((m.tokens pattern).map (Token.ofText m.compile)) (m.tokens path) := by
  rw [capture, h]
  simp

theorem capture_of_startsWith_ne
    (h : Text.startsWith m.separator pattern ≠ Text.startsWith m.separator path) :
    m.capture pattern path = .ok none := if_pos (by simpa using h.symm)

/-- The list of captures after a match is what the walk captures, behind what was in it before. -/
theorem follows_matchCapturing (m : AntMatcher) (pattern path : List Char) :
    Follows (m.matchCapturing m.compile pattern path) (m.capture pattern path) := by
  rw [matchCapturing, capture]
  split_ifs
  · intro vars
    show Except.ok (false, vars) = Except.ok (false, vars ++ [])
    rw [List.append_nil]
  · exact follows_matchTokens
      (fun token => by rw [Bool.eq_iff_iff, isAny_one_iff, compile_eq_any_iff, beq_iff_eq]) _ _ _ _

theorem isMatch_eq_capture (m : AntMatcher) (pattern path : List Char) :
    m.isMatch pattern path = m.named pattern ((m.capture pattern path).map Option.isSome) := by
  rw [isMatch, StateT.run'_eq, m.follows_matchCapturing pattern path []]
  rcases m.capture pattern path with fault | found <;> rfl

theorem extract_eq_capture (m : AntMatcher) (pattern path : List Char) :
    m.extract pattern path = m.named pattern ((m.capture pattern path).map (outcome [])) >>=
      bindings pattern path := by
  rw [extract, m.follows_matchCapturing pattern path []]

theorem isMatch_of_capture {found : Option Captures} (h : m.capture pattern path = .ok found) :
    m.isMatch pattern path = .ok found.isSome := by
  rw [isMatch_eq_capture, h]
  rfl

theorem isMatch_of_capture_error {fault : Fault} (h : m.capture pattern path = .error fault) :
    m.isMatch pattern path = .error (m.faultIn pattern fault) := by
  rw [isMatch_eq_capture, h]
  rfl

theorem extract_of_capture {captures : Captures}
    (h : m.capture pattern path = .ok (some captures)) :
    m.extract pattern path = .ok (Dict.ofList (captures.map fun (name, value) =>
      (String.ofList name, String.ofList value))) := by
  rw [extract_eq_capture, h]
  rfl

theorem extract_of_capture_none (h : m.capture pattern path = .ok none) :
    m.extract pattern path = .error (.noMatch (String.ofList pattern) (String.ofList path)) := by
  rw [extract_eq_capture, h]
  rfl

theorem extract_of_capture_error {fault : Fault} (h : m.capture pattern path = .error fault) :
    m.extract pattern path = .error (m.faultIn pattern fault) := by
  rw [extract_eq_capture, h]
  rfl

theorem isMatch_eq_true_iff_capture :
    m.isMatch pattern path = .ok true ↔
      ∃ captures, m.capture pattern path = .ok (some captures) := by
  rcases h : m.capture pattern path with fault | _ | captures
  · simp [isMatch_of_capture_error h]
  · simp [isMatch_of_capture h]
  · simp [isMatch_of_capture h]

end Interception.AntMatcher
