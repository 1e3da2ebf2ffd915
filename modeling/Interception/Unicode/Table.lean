import Interception.CharSet

/-!
# Compact tables of code points

Data about characters is kept as lines of text, numbers in base 36 with blanks between them. A set
of characters is read from the distances between its bounds. A `Partition` sends every code point
to one of several classes.
-/

namespace Interception

namespace Unicode

/-- The value of a digit of base 36; the letters are small. -/
def digitValue (c : Char) : Nat :=
  if c.isDigit then c.toNat - '0'.toNat else c.toNat - 'a'.toNat + 10

/-- The numbers that a line of a table holds, in order. -/
def numbersOfLine (line : String) : List Nat :=
  let read (state : List Nat × Nat) (c : Char) : List Nat × Nat :=
    if c = ' ' then (state.2 :: state.1, 0) else (state.1, state.2 * 36 + digitValue c)
  let (done, last) := line.toList.foldl read ([], 0)
  (last :: done).reverse

/-- The numbers that a table holds, in order. -/
def numbers (lines : List String) : List Nat := lines.flatMap numbersOfLine

/-- The sums of the first one, two, three, … numbers. -/
def runningSums (start : Nat) : List Nat → List Nat
  | [] => []
  | n :: ns => (start + n) :: runningSums (start + n) ns

end Unicode

/-- Reads the distances between neighbouring bounds. -/
def CharSet.ofLines (lines : List String) : CharSet :=
  ⟨(Unicode.runningSums 0 (Unicode.numbers lines)).toArray⟩

namespace Unicode

/-- A division of all code points into classes: runs of code points, each with how many there are
and the class that they share. -/
structure Partition where
  runs : List (Nat × Nat)

namespace Partition

/-- The numbers two by two. -/
def pairs : List Nat → List (Nat × Nat)
  | n :: m :: rest => (n, m) :: pairs rest
  | _ => []

/-- Reads pairs of a run's length and its class. -/
def ofLines (lines : List String) : Partition := ⟨pairs (numbers lines)⟩

/-- The bounds of the classes that `p` accepts, from `start` on. -/
def boundsFrom (p : Nat → Bool) (start : Nat) (inside : Bool) : List (Nat × Nat) → List Nat
  | [] => if inside then [start] else []
  | (length, place) :: rest =>
    let bounds := boundsFrom p (start + length) (p place) rest
    if p place = inside then bounds else start :: bounds

/-- The characters whose class `p` accepts. -/
def select (partition : Partition) (p : Nat → Bool) : CharSet :=
  ⟨(boundsFrom p 0 false partition.runs).toArray⟩

end Partition

end Unicode

end Interception
