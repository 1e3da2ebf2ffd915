import Interception.Regex.Footprint.Utf8
import Std.Data.TreeMap

/-!
# What an automaton over bytes takes in memory

An expression is refused if an automaton that reads bytes, one character's bytes after the other,
would be too large. A `Footprint` counts the states of such an automaton and the memory of the
lists that its states hold. Counting stops as soon as the limit is passed.
-/

namespace Interception.Regex

/-- The states of an automaton, and how many bytes of memory their lists take. -/
structure Footprint where
  states : Nat
  lists : Nat
  deriving DecidableEq, Repr

namespace Footprint

def empty : Footprint := ⟨0, 0⟩

/-- A state takes 32 bytes, beside its lists. -/
def bytes (f : Footprint) : Nat := 32 * f.states + f.lists

/-- The largest automaton that is accepted, ten mebibytes. -/
def limit : Nat := 10 * 1024 * 1024

/-- The footprint with so much more, if that is accepted. -/
def add? (states lists : Nat) (f : Footprint) : Option Footprint :=
  let f : Footprint := ⟨f.states + states, f.lists + lists⟩
  if f.bytes ≤ limit then some f else none

/-- A way in a list takes 4 bytes in a fork and 8 bytes where it is for a range of bytes. -/
def forkWay : Nat := 4

@[inherit_doc forkWay] def rangeWay : Nat := 8

/-! ## Hashing

States that are alike are built once, as far as they are found again: each has one place in a table
of fixed size, chosen by a hash, and gives way to the next one with that place.
-/

/-- The hash of a row of numbers: for each one, a step that mixes it in and multiplies. -/
def hash (numbers : List Nat) : UInt64 :=
  numbers.foldl (fun h n => (h ^^^ n.toUInt64) * 1099511628211) 14695981039346656037

/-- The place of a row of numbers in a table with so many places. -/
def placeIn (places : Nat) (numbers : List Nat) : Nat := (hash numbers).toNat % places

/-- A table of keys and the states that were built for them, each under its key's place. -/
abbrev Table (κ : Type) := Std.TreeMap Nat (κ × Nat)

/-- The state for a key, if the key is in its place. -/
def Table.find? {κ : Type} [DecidableEq κ] (table : Table κ) (place : Nat) (key : κ) : Option Nat :=
  match table[place]? with
  | some (own, state) => if own = key then some state else none
  | none => none

/-! ## Sets, read forwards

The rows of byte ranges are put into a tree in which rows with one beginning share it. A node is
finished when no later row can go through it, and it is built unless a node just like it was built
before, so that rows with one end mostly share that too.
-/

/-- A way of a node: for a range of bytes to a state. -/
structure Way where
  range : ByteRange
  next : Nat
  deriving DecidableEq, Repr

/-- A node that is not finished: its finished ways, the last one first, and the range of a way that
leads to the node below. -/
structure OpenNode where
  ways : List Way
  last : Option ByteRange
  deriving DecidableEq, Repr

namespace OpenNode

/-- The node after its last way has found its state. -/
def close (node : OpenNode) (next : Nat) : OpenNode :=
  match node.last with
  | some range => ⟨⟨range, next⟩ :: node.ways, none⟩
  | none => node

end OpenNode

/-- What has been built for a set, and the nodes that are not finished, the deepest one first. -/
structure Forwards where
  footprint : Footprint
  table : Table (List Way)
  nodes : List OpenNode

namespace Forwards

/-- The state for a node with the given ways, built if need be. -/
def state (b : Forwards) (ways : List Way) : Nat × Forwards :=
  let place := placeIn 10000
    (ways.flatMap fun w => [w.range.low.toNat, w.range.high.toNat, w.next])
  match Table.find? b.table place ways with
  | some state => (state, b)
  | none =>
    let state := b.footprint.states
    (state,
      { b with
        footprint := ⟨state + 1, b.footprint.lists + rangeWay * ways.length⟩
        table := b.table.insert place (ways, state) })

/-- Finishes the deepest `n` nodes; the last way of the deepest one leads to `next`. -/
def finish : Nat → Nat → Forwards → Forwards
  | 0, next, b =>
    match b.nodes with
    | node :: nodes => { b with nodes := node.close next :: nodes }
    | [] => b
  | n + 1, next, b =>
    match b.nodes with
    | node :: nodes =>
      let (state, b) := { b with nodes }.state (node.close next).ways.reverse
      b.finish n state
    | [] => b

/-- How many ranges a row has in common with the unfinished ways, which are given from the top. -/
def shared : List ByteRange → List OpenNode → Nat
  | range :: row, node :: nodes => if node.last = some range then shared row nodes + 1 else 0
  | _, _ => 0

/-- Puts a row into the tree; the rows lead to the state `target`. -/
def addRow (target : Nat) (b : Forwards) (row : List ByteRange) : Forwards :=
  let common := shared row b.nodes.reverse
  let b := b.finish (b.nodes.length - (common + 1)) target
  match row.drop common, b.nodes with
  | range :: rest, node :: nodes =>
    let below := rest.map fun range => (⟨[], some range⟩ : OpenNode)
    { b with nodes := below.reverse ++ { node with last := some range } :: nodes }
  | _, _ => b

end Forwards

/-- Counts a set that is read forwards. -/
def addForwards (s : CharSet) (f : Footprint) : Footprint :=
  let target := f.states
  let start : Forwards := ⟨⟨f.states + 1, f.lists⟩, ∅, [⟨[], none⟩]⟩
  let b := (byteRows s).foldl (Forwards.addRow target) start
  let b := b.finish (b.nodes.length - 1) target
  match b.nodes with
  | root :: _ => (b.state root.ways.reverse).2.footprint
  | [] => b.footprint

/-! ## Sets, read backwards

Every row is a chain of states that leads to the first byte of the character, and a fork chooses
among the chains. Chains share the states at that end.
-/

/-- The state of a chain, by the state that it leads to and its range of bytes. -/
structure Link where
  next : Nat
  range : ByteRange
  deriving DecidableEq, Repr

/-- What has been built for a set. -/
structure Backwards where
  footprint : Footprint
  table : Table Link

namespace Backwards

/-- The state for a link, built if need be. -/
def state (b : Backwards) (link : Link) : Nat × Backwards :=
  let place := placeIn 1000 [link.next, link.range.low.toNat, link.range.high.toNat]
  match Table.find? b.table place link with
  | some state => (state, b)
  | none =>
    let state := b.footprint.states
    (state, ⟨⟨state + 1, b.footprint.lists⟩, b.table.insert place (link, state)⟩)

/-- Builds a chain to the state `target`, and a way to it in the fork. -/
def addRow (target : Nat) (b : Backwards) (row : List ByteRange) : Backwards :=
  let (_, b) := row.foldl (fun (next, b) range => b.state ⟨next, range⟩) (target, b)
  { b with footprint := { b.footprint with lists := b.footprint.lists + forkWay } }

end Backwards

/-- Counts a set that is read backwards. -/
def addBackwards (s : CharSet) (f : Footprint) : Footprint :=
  let target := f.states + 1
  ((byteRows s).foldl (Backwards.addRow target) ⟨⟨f.states + 2, f.lists⟩, ∅⟩).footprint

/-! ## Sets -/

/-- Whether the text is read forwards or backwards. -/
inductive Direction where
  | forwards
  | backwards
  deriving DecidableEq, Repr

/-- Counts a set. Characters of ASCII are bytes, so that one state is enough for them. -/
def addSet? (direction : Direction) (s : CharSet) (f : Footprint) : Option Footprint :=
  if s.bounds.all (· ≤ 128) then f.add? 2 (rangeWay * s.runs.length)
  else
    match direction with
    | .forwards => (addForwards s f).add? 0 0
    | .backwards => (addBackwards s f).add? 0 0

end Footprint

end Interception.Regex
