import Interception.Regex.Automaton

/-!
# Searching with an automaton

A search keeps the threads that have read the text so far, the preferred one first. For each
character every thread is moved on, and from where it arrives its forks, tests and marks are
followed at once. No two threads stand at one node: what follows depends on the node and the place
alone, so that the later one could never be chosen. The preferred match is that of the first thread
to accept, unless a thread before it goes on and accepts later.
-/

namespace Interception.Regex

/-- A place that a thread has marked. -/
structure Mark where
  slot : Slot
  place : Cursor
  deriving DecidableEq, Repr

/-- A thread stands at a node. Its latest mark comes first. -/
structure Thread where
  node : Nat
  marks : List Mark
  deriving DecidableEq, Repr

/-- The threads found for one place, the last one first, and for each node the place where a thread
last came to it, as the length of text left there and one more. -/
structure Threads where
  found : List Thread
  seen : Array Nat

namespace Node

/-- The threads that a thread at the node goes on as before a character is taken, the preferred one
first, unless it waits there for a character or accepts. -/
def ways? (place : Cursor) (t : Thread) : Node → Option (List Thread)
  | .fork first second => some [{ t with node := first }, { t with node := second }]
  | .test condition next => some (if condition.holds place then [{ t with node := next }] else [])
  | .mark slot next => some [⟨next, ⟨slot, place⟩ :: t.marks⟩]
  | .accept | .char _ _ | .set _ _ => none

/-- The node that comes after the character `x`, if the node takes it. -/
def after? (x : Char) : Node → Option Nat
  | .char y next => if y = x then some next else none
  | .set s next => if s.contains x then some next else none
  | _ => none

end Node

namespace Automaton

/-- Follows threads through forks, tests and marks, one after the other, to the nodes where they
wait for a character or accept. A node is come to once. -/
def follow (a : Automaton) (place : Cursor) : Nat → List Thread → Threads → Threads
  | 0, _, threads => threads
  | _ + 1, [], threads => threads
  | fuel + 1, t :: todo, threads =>
    if threads.seen.getD t.node 0 = place.left + 1 then a.follow place fuel todo threads
    else
      let ⟨found, seen⟩ := threads
      let seen := seen.setIfInBounds t.node (place.left + 1)
      match a.nodes[t.node]? with
      | none => a.follow place fuel todo ⟨found, seen⟩
      | some node =>
        match node.ways? place t with
        | some ways => a.follow place fuel (ways ++ todo) ⟨found, seen⟩
        | none => a.follow place fuel todo ⟨t :: found, seen⟩

/-- How many steps are enough to follow one thread: each node is left at most once, by at most two
ways. -/
def followFuel (a : Automaton) : Nat := 2 * a.nodes.size + 2

/-- The threads from `node` on, behind those that were found before. -/
def enter (a : Automaton) (place : Cursor) (t : Thread) (threads : Threads) : Threads :=
  a.follow place a.followFuel [t] threads

/-- Where a thread stands after the character `x`, if its node takes it. -/
def move? (a : Automaton) (x : Char) (t : Thread) : Option Thread :=
  (a.nodes[t.node]?.bind (Node.after? x)).map fun node => { t with node }

/-- The threads in front of the first one that accepts, and that one. -/
def untilAccept (a : Automaton) : List Thread → List Thread × Option Thread
  | [] => ([], none)
  | t :: ts =>
    match a.nodes[t.node]? with
    | some .accept => ([], some t)
    | _ =>
      let (before, accepting) := a.untilAccept ts
      (t :: before, accepting)

/-- Reads the text on from a place with the threads that have come there, the last one first. Until
a match is found another one may begin at any place. -/
def run (a : Automaton) :
    Option Char → (rest : List Char) → (left : Nat) → left = rest.length →
      Option (List Mark) → Threads → Option (List Mark)
  | before, rest, left, h, best, threads =>
    let place : Cursor := ⟨before, rest, left, h⟩
    let threads := if best.isNone then a.enter place ⟨a.start, []⟩ threads else threads
    let (going, accepting) := a.untilAccept threads.found.reverse
    let best := (accepting.map Thread.marks).or best
    match rest, h with
    | [], _ => best
    | c :: rest, h =>
      if going.isEmpty && best.isSome then best
      else
        let later : Cursor := ⟨some c, rest, left - 1, Cursor.left_of_cons h⟩
        let moved := going.filterMap (a.move? c)
        let threads := moved.foldl (fun threads t => a.enter later t threads) ⟨[], threads.seen⟩
        a.run (some c) rest (left - 1) later.left_eq best threads

/-- The marks of the preferred match at the leftmost place that has one. -/
def search? (a : Automaton) (text : List Char) : Option (List Mark) :=
  let place := Cursor.start text
  a.run place.before place.rest place.left place.left_eq none ⟨[], Array.replicate a.nodes.size 0⟩

end Automaton

/-- The place that was marked last for a slot. -/
def lastMark? (slot : Slot) (marks : List Mark) : Option Cursor :=
  (marks.find? fun m => m.slot == slot).map Mark.place

/-- What the group with a number took, if it took part in the match. -/
def captured? (marks : List Mark) (index : Nat) : Option (List Char) := do
  let start ← lastMark? ⟨index, false⟩ marks
  let stop ← lastMark? ⟨index, true⟩ marks
  return start.upTo stop

/-- The number of the group with a name. -/
def groupNamed? (name : String) : Regex → Option Nat
  | .group index own r => if own = some name then some index else r.groupNamed? name
  | .repeated r _ _ _ => r.groupNamed? name
  | .seq a b | .alt a b => a.groupNamed? name <|> b.groupNamed? name
  | _ => none

end Interception.Regex
