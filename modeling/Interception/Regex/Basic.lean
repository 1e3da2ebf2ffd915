import Interception.Regex.Anchor

/-!
# Regular expressions

A `Regex` is an expression whose flags have taken effect. The functions that put expressions
together, `concat`, `alternation` and `repetition`, keep them in a simple form: rows lie flat,
neighbouring literals are one, alternatives between characters are a set, and what all
alternatives begin with stands before them. The form decides how large an automaton is built, and
with it which expressions are accepted.
-/

namespace Interception

/-- A regular expression. A literal is not empty; a row or a choice of several is nested to the
right. A repetition has at least `least` and at most `most` rounds, and a group captures under its
number and, maybe, a name. -/
inductive Regex where
  | empty
  | literal (text : List Char)
  | set (s : CharSet)
  | anchor (a : Regex.Anchor)
  | repeated (r : Regex) (least : Nat) (most : Option Nat) (greedy : Bool)
  | group (index : Nat) (name : Option String) (r : Regex)
  | seq (a b : Regex)
  | alt (a b : Regex)
  deriving DecidableEq, Repr

namespace Regex

/-! ## How much text is taken -/

/-- Whether every match is empty. -/
def takesNothing : Regex → Bool
  | .empty | .anchor _ => true
  | .literal _ | .set _ => false
  | .repeated r _ most _ => most.isSome && r.takesNothing
  | .group _ _ r => r.takesNothing
  | .seq a b | .alt a b => a.takesNothing && b.takesNothing

/-- The length of the shortest match. There is none for an expression with a part that cannot
match. -/
def minLength? : Regex → Option Nat
  | .empty | .anchor _ => some 0
  | .literal text => some text.length
  | .set s => if s.isEmpty then none else some 1
  | .repeated r least _ _ => r.minLength?.map (· * least)
  | .group _ _ r => r.minLength?
  | .seq a b => do return (← a.minLength?) + (← b.minLength?)
  | .alt a b => do return min (← a.minLength?) (← b.minLength?)

/-- Whether a match surely takes some text. -/
def takesText (r : Regex) : Bool := r.minLength?.any (0 < ·)

/-- Whether every match begins where the text begins. -/
def startsText : Regex → Bool
  | .anchor a => a == .textStart
  | .repeated r least _ _ => 0 < least && r.startsText
  | .group _ _ r => r.startsText
  | .seq a b => a.startsText || (a.takesNothing && b.startsText)
  | .alt a b => a.startsText && b.startsText
  | _ => false

/-- Whether every match ends where the text ends. -/
def endsText : Regex → Bool
  | .anchor a => a == .textEnd
  | .repeated r least _ _ => 0 < least && r.endsText
  | .group _ _ r => r.endsText
  | .seq a b => b.endsText || (b.takesNothing && a.endsText)
  | .alt a b => a.endsText && b.endsText
  | _ => false

/-! ## Rows -/

/-- The parts of a row; any other expression is its only part. -/
def parts : Regex → List Regex
  | .empty => []
  | .seq a b => a.parts ++ b.parts
  | r => [r]

def ofParts : List Regex → Regex
  | [] => .empty
  | [r] => r
  | r :: rest => .seq r (ofParts rest)

/-- Joins literals that are neighbours. -/
def joinLiterals : List Regex → List Regex
  | [] => []
  | .literal text :: rest =>
    match joinLiterals rest with
    | .literal more :: rest => .literal (text ++ more) :: rest
    | rest => .literal text :: rest
  | r :: rest => r :: joinLiterals rest

/-- To what takes a joined literal as it takes the two literals, joining makes no difference. -/
theorem foldr_joinLiterals {α : Type} {f : Regex → α → α}
    (joined : ∀ text more x, f (.literal (text ++ more)) x = f (.literal text) (f (.literal more) x))
    (rs : List Regex) (x : α) : (joinLiterals rs).foldr f x = rs.foldr f x := by
  fun_induction joinLiterals rs with
  | case1 => rfl
  | case2 text rest more others own ih =>
      rw [own, List.foldr_cons] at ih
      rw [List.foldr_cons, List.foldr_cons, joined, ih]
  | case3 text rest _ ih => rw [List.foldr_cons, List.foldr_cons, ih]
  | case4 r rest _ ih => rw [List.foldr_cons, List.foldr_cons, ih]

/-- One expression after the other. -/
def concat (rs : List Regex) : Regex := ofParts (joinLiterals (rs.flatMap parts))

/-! ## Choices -/

/-- The alternatives of a choice; any other expression is its only alternative. -/
def branches : Regex → List Regex
  | .alt a b => a.branches ++ b.branches
  | r => [r]

/-- A choice between alternatives. Without any there is no match. -/
def ofBranches : List Regex → Regex
  | [] => .set .empty
  | [r] => r
  | r :: rest => .alt r (ofBranches rest)

/-- One character of a set. -/
def ofSet (s : CharSet) : Regex :=
  match s.single? with
  | some c => .literal [c]
  | none => .set s

def singleChar? : Regex → Option Char
  | .literal [c] => some c
  | _ => none

def set? : Regex → Option CharSet
  | .set s => some s
  | _ => none

/-- The parts of a row of several. -/
def row? : Regex → Option (List Regex)
  | .seq a b => some (.seq a b : Regex).parts
  | _ => none

/-- What two lists begin with alike. -/
def commonStart : List Regex → List Regex → List Regex
  | r :: rs, s :: ss => if r = s then r :: commonStart rs ss else []
  | _, _ => []

/-- What all lists begin with. -/
def commonStarts : List (List Regex) → List Regex
  | [] => []
  | row :: rows => rows.foldl commonStart row

/-- The choice between alternatives, the preferred one first; `fuel` bounds how often what they
begin with is taken out. -/
def choose : Nat → List Regex → Regex
  | 0, rs => ofBranches rs
  | fuel + 1, rs =>
    match rs.flatMap branches with
    | [] => .set .empty
    | [r] => r
    | rs =>
      match rs.mapM singleChar?, rs.mapM set?, rs.mapM row? with
      | some chars, _, _ => ofSet (.ofChars chars)
      | none, some sets, _ => ofSet (.unions sets)
      | none, none, some rows =>
        match commonStarts rows with
        | [] => ofBranches rs
        | start =>
          let ends := rows.map fun row => concat (row.drop start.length)
          concat (start ++ [choose fuel ends])
      | none, none, none => ofBranches rs

/-- How many expressions the expression is made of. -/
def size : Regex → Nat
  | .empty | .literal _ | .set _ | .anchor _ => 1
  | .repeated r _ _ _ | .group _ _ r => r.size + 1
  | .seq a b | .alt a b => a.size + b.size + 1

/-- How many expressions several expressions are made of. -/
def sizes (rs : List Regex) : Nat := rs.foldl (fun n r => n + r.size) 0

/-- The choice between alternatives, the preferred one first. -/
def alternation (rs : List Regex) : Regex := choose (sizes rs + 1) rs

/-! ## Repetitions -/

/-- Between `least` and `most` rounds, or any number of at least `least`. A second round of what
takes nothing would change nothing. -/
def repetition (r : Regex) (least : Nat) (most : Option Nat) (greedy : Bool) : Regex :=
  let (least, most) :=
    if r.takesNothing then (min least 1, some (min (most.getD 1) 1)) else (least, most)
  match least, most with
  | 0, some 0 => .empty
  | 1, some 1 => r
  | least, most => .repeated r least most greedy

end Regex

end Interception
