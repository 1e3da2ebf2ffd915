import Interception.Regex.Basic
import Interception.Regex.Footprint.Literals

/-!
# The footprint of an expression

Each kind of expression is a few states around the states of what it is made of. Two automata are
built for an expression, one that reads forwards and captures, and one that reads backwards and
does not; the expression is accepted if both are.
-/

namespace Interception.Regex

open Footprint

/-- The text of a literal. -/
def literal? : Regex → Option (List Char)
  | .literal text => some text
  | _ => none

namespace Footprint

/-- Counts `count` a number of times. -/
def times? (count : Footprint → Option Footprint) : Nat → Footprint → Option Footprint
  | 0, f => some f
  | n + 1, f => (count f).bind (times? count n)

/-- Counts `count` exactly a number of times; not once takes a state, too. -/
def exactly? (count : Footprint → Option Footprint) (n : Nat) (f : Footprint) : Option Footprint :=
  if n = 0 then f.add? 1 0 else times? count n f

/-- Counts a repetition; `takesText` tells whether a round surely takes some text. -/
def repetition? (count : Footprint → Option Footprint) (takesText : Bool) (least : Nat)
    (most : Option Nat) (f : Footprint) : Option Footprint :=
  match least, most with
  | 0, some 1 => do (← count (← f.add? 1 0)).add? 1 (2 * forkWay)
  | 0, none =>
    if takesText then do (← count (← f.add? 1 0)).add? 0 (2 * forkWay)
    else do (← count f).add? 3 (4 * forkWay)
  | n + 1, none => do (← times? count (n + 1) f).add? 1 (2 * forkWay)
  | n, some m => do
    let f ← exactly? count n f
    if m ≤ n then return f
    else times? (fun f => do (← count (← f.add? 1 0)).add? 0 (2 * forkWay)) (m - n) (← f.add? 1 0)

/-- Where an expression stands: on its own, as the second alternative of a choice, or as a later
one. -/
inductive Branch where
  | whole
  | second
  | later
  deriving DecidableEq, Repr

/-- What a choice takes beside its alternatives: a fork with a way to each, and a state where they
come together, both of which are built behind the second alternative. -/
def Branch.close? : Branch → Footprint → Option Footprint
  | .whole, f => some f
  | .second, f => f.add? 2 (2 * forkWay)
  | .later, f => f.add? 0 forkWay

end Footprint

/-- Counts the states for an expression. -/
def count? (direction : Direction) : Regex → Branch → Footprint → Option Footprint
  | .empty, branch, f => (f.add? 1 0).bind branch.close?
  | .literal text, branch, f =>
    (f.add? (text.flatMap String.utf8EncodeChar).length 0).bind branch.close?
  | .set s, branch, f => (addSet? direction s f).bind branch.close?
  | .anchor _, branch, f => (f.add? 1 0).bind branch.close?
  | .repeated r least most _, branch, f =>
    (repetition? (r.count? direction .whole) r.takesText least most f).bind branch.close?
  | .group _ _ r, branch, f =>
    match direction with
    | .forwards => do branch.close? (← (← r.count? direction .whole (← f.add? 1 0)).add? 1 0)
    | .backwards => (r.count? direction .whole f).bind branch.close?
  | .seq a b, branch, f =>
    match direction with
    | .forwards =>
      ((a.count? direction .whole f).bind (b.count? direction .whole)).bind branch.close?
    | .backwards =>
      ((b.count? direction .whole f).bind (a.count? direction .whole)).bind branch.close?
  | .alt a b, .whole, f =>
    match (Regex.alt a b).branches.mapM literal? with
    | some literals => addLiterals? direction literals f
    | none => (a.count? direction .whole f).bind (b.count? direction .second)
  | .alt a b, .second, f =>
    ((a.count? direction .whole f).bind Branch.second.close?).bind (b.count? direction .later)
  | .alt a b, .later, f =>
    ((a.count? direction .whole f).bind Branch.later.close?).bind (b.count? direction .later)

/-- What comes before a match: a loop over bytes, unless the match is bound to begin where reading
begins. -/
def lead? (bound : Bool) : Option Footprint :=
  if bound then Footprint.empty.add? 1 0 else Footprint.empty.add? 3 (rangeWay + 2 * forkWay)

/-- Counts the whole automaton: what comes before the match, the match itself, which is a group if
groups capture, and its acceptance. -/
def total? (direction : Direction) (r : Regex) : Option Footprint :=
  match direction with
  | .forwards => do
    let f ← lead? r.startsText
    (← r.count? direction .whole (← f.add? 1 0)).add? 2 0
  | .backwards => do
    let f ← lead? r.endsText
    (← r.count? direction .whole f).add? 1 0

/-- Whether the automata for the expression are small enough. -/
def fits (r : Regex) : Bool := (r.total? .forwards).isSome && (r.total? .backwards).isSome

end Interception.Regex
