import Interception.Regex.Footprint.Basic

/-!
# Choices between literals

Where all alternatives are literals, the automaton is a tree of their bytes. The order of
preference has to be kept: where a literal ends, the ways of the literals before it are closed, and
later literals get ways of their own.
-/

namespace Interception.Regex.Footprint

/-- A tree of literals: the rows of ways that are closed, and the ways of the last row. -/
inductive Tree where
  | node (closed : List (List (UInt8 × Tree))) (row : List (UInt8 × Tree))

namespace Tree

def leaf : Tree := .node [] []

/-- Puts a literal into the tree. One that ends where nothing has come since another one ended
makes no difference. -/
def add : List UInt8 → Tree → Tree
  | [], .node closed row =>
    if row.isEmpty && !closed.isEmpty && closed.all List.isEmpty then .node closed row
    else .node (closed ++ [row]) []
  | b :: bs, .node closed row =>
    let below := ((row.find? fun way => way.1 == b).map (·.2)).getD leaf
    .node closed ((b, add bs below) :: row.filter fun way => way.1 != b)

/-- What a row of ways takes in its node: a state unless it is empty, and the way of the node's
fork to it. -/
def rowFootprint (row : List (UInt8 × Tree)) : Footprint :=
  match row with
  | [] => ⟨0, 0⟩
  | [_] => ⟨1, forkWay⟩
  | row => ⟨1, forkWay + rangeWay * row.length⟩

mutual

/-- What the states of a tree take. Each node but a leaf has a fork among its rows and, after each
closed row, the end. -/
def footprint : Tree → Footprint
  | .node closed row =>
    let own := (closed ++ [row]).map rowFootprint
    let below := closedBelow closed
    let inner := rowBelow row
    if row.isEmpty && closed.all List.isEmpty then ⟨0, 0⟩
    else
      ⟨1 + (own.map Footprint.states).sum + below.states + inner.states,
        forkWay * closed.length + (own.map Footprint.lists).sum + below.lists + inner.lists⟩

/-- What is below the ways of closed rows. -/
def closedBelow : List (List (UInt8 × Tree)) → Footprint
  | [] => ⟨0, 0⟩
  | row :: rows =>
    let a := rowBelow row
    let b := closedBelow rows
    ⟨a.states + b.states, a.lists + b.lists⟩

/-- What is below the ways of a row. -/
def rowBelow : List (UInt8 × Tree) → Footprint
  | [] => ⟨0, 0⟩
  | (_, tree) :: row =>
    let a := tree.footprint
    let b := rowBelow row
    ⟨a.states + b.states, a.lists + b.lists⟩

end

end Tree

/-- Counts a choice between literals. -/
def addLiterals? (direction : Direction) (literals : List (List Char)) (f : Footprint) :
    Option Footprint :=
  let tree := literals.foldl (fun tree text =>
    let bytes := text.flatMap String.utf8EncodeChar
    tree.add (match direction with | .forwards => bytes | .backwards => bytes.reverse)) Tree.leaf
  f.add? (tree.footprint.states + 1) tree.footprint.lists

end Interception.Regex.Footprint
