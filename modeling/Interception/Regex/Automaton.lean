import Interception.Regex.Basic

/-!
# Automata

An automaton is a list of nodes, each with the numbers of the nodes that come next. A thread stands
at a node; it takes a character, tests an anchor, marks a place, or forks, the preferred way first.
Every expression is built in front of the node where its match goes on, so that `build r exit`
gives the node where a match of `r` begins.

What may be repeated any number of times and may take nothing is built as a loop of at least one
round that can be skipped: in a loop of none or more rounds the way out would be found too early.
-/

namespace Interception.Regex

/-- Where a group begins or ends, by the number of the group. -/
structure Slot where
  index : Nat
  isEnd : Bool
  deriving DecidableEq, Repr

inductive Node where
  | accept
  | char (c : Char) (next : Nat)
  | set (s : CharSet) (next : Nat)
  | test (a : Anchor) (next : Nat)
  | mark (slot : Slot) (next : Nat)
  | fork (first second : Nat)
  deriving DecidableEq, Repr

/-- An automaton that is being built: the nodes that are there, and where a match begins. -/
structure Automaton where
  nodes : Array Node
  start : Nat
  deriving Repr

namespace Automaton

/-- Puts a node in front. -/
def push (node : Node) : Automaton → Automaton
  | ⟨nodes, _⟩ =>
    let start := nodes.size
    ⟨nodes.push node, start⟩

/-- Puts a node in front that goes on at the start, with `node` for the way there. -/
def pushTo (node : Nat → Node) : Automaton → Automaton
  | ⟨nodes, start⟩ => push (node start) ⟨nodes, start⟩

/-- Puts the characters of a literal in front, which is given backwards. -/
def pushLiteral (text : List Char) (a : Automaton) : Automaton :=
  text.foldl (fun a c => a.pushTo (.char c)) a

/-- A fork between going on with `inner` and leaving for `exit`. A greedy one prefers `inner`. -/
def fork (greedy : Bool) (inner exit : Nat) : Node :=
  if greedy then .fork inner exit else .fork exit inner

/-- Puts a fork in front that skips what begins at the start. -/
def pushSkip (greedy : Bool) (exit : Nat) (a : Automaton) : Automaton :=
  a.pushTo fun inner => fork greedy inner exit

/-- Puts a loop in front, in which `body` puts one round in front. With `skip` it begins with the
fork between another round and the way out, and otherwise with a round. -/
def pushLoop (greedy skip : Bool) (body : Automaton → Automaton) : Automaton → Automaton
  | ⟨nodes, exit⟩ =>
    -- The fork is in its place before the round is there that it leads to.
    let again := nodes.size
    match body ⟨nodes.push .accept, again⟩ with
    | ⟨nodes, inner⟩ =>
      ⟨nodes.setIfInBounds again (fork greedy inner exit), if skip then again else inner⟩

/-- Puts `body` in front a number of times. -/
def pushTimes (body : Automaton → Automaton) : Nat → Automaton → Automaton
  | 0, a => a
  | n + 1, a => pushTimes body n (body a)

/-- Puts up to a number of rounds of `body` in front, each of which can be skipped together with
those after it. -/
def pushUpTo (greedy : Bool) (exit : Nat) (body : Automaton → Automaton) :
    Nat → Automaton → Automaton
  | 0, a => a
  | n + 1, a => pushUpTo greedy exit body n ((body a).pushSkip greedy exit)

/-- Puts a repetition in front; `takesText` tells whether a round surely takes some text. -/
def pushRepetition (body : Automaton → Automaton) (takesText : Bool) (least : Nat)
    (most : Option Nat) (greedy : Bool) : Automaton → Automaton
  | ⟨nodes, exit⟩ =>
    match least, most with
    | 0, none =>
      if takesText then pushLoop greedy true body ⟨nodes, exit⟩
      else (pushLoop greedy false body ⟨nodes, exit⟩).pushSkip greedy exit
    | n + 1, none => pushTimes body n (pushLoop greedy false body ⟨nodes, exit⟩)
    | n, some m => pushTimes body n (pushUpTo greedy exit body (m - n) ⟨nodes, exit⟩)

/-- Puts a choice in front. -/
def pushChoice (first second : Automaton → Automaton) : Automaton → Automaton
  | ⟨nodes, exit⟩ =>
    match second ⟨nodes, exit⟩ with
    | ⟨nodes, b⟩ => (first ⟨nodes, exit⟩).pushTo fun a => .fork a b

end Automaton

/-- Puts a match of the expression in front. -/
def build : Regex → Automaton → Automaton
  | .empty, a => a
  | .literal text, a => a.pushLiteral text.reverse
  | .set s, a => a.pushTo (.set s)
  | .anchor condition, a => a.pushTo (.test condition)
  | .repeated r least most greedy, a =>
    Automaton.pushRepetition r.build r.takesText least most greedy a
  | .group index _ r, a =>
    (r.build (a.pushTo (.mark ⟨index, true⟩))).pushTo (.mark ⟨index, false⟩)
  | .seq r s, a => r.build (s.build a)
  | .alt r s, a => Automaton.pushChoice r.build s.build a

/-- The automaton for an expression. -/
def automaton (r : Regex) : Automaton := r.build ⟨#[.accept], 0⟩

end Interception.Regex
