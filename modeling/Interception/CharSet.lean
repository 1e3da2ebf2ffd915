/-!
# Sets of characters

A set is given by its bounds: the code points, in increasing order, from which on membership
changes. No character lies between two code points that are neighbours, so every set of characters
has exactly one such form as long as code points that are no characters are kept out, and sets are
equal if their bounds are. `combine` works on two sets at once, bound by bound; union, intersection
and difference are its instances.
-/

namespace Interception

/-- How many of `bounds`, which increase, are at most `x`. The halving ends before the fuel does. -/
def rank (bounds : Array Nat) (x : Nat) : Nat :=
  search bounds.size 0 bounds.size
where
  search : Nat → Nat → Nat → Nat
    | 0, low, _ => low
    | fuel + 1, low, high =>
      if low < high then
        let middle := (low + high) / 2
        if bounds.getD middle 0 ≤ x then search fuel (middle + 1) high else search fuel low middle
      else low

/-- A set of characters: from each bound on, membership changes. -/
structure CharSet where
  bounds : Array Nat
  deriving DecidableEq, Repr

namespace CharSet

def contains (s : CharSet) (c : Char) : Bool := rank s.bounds c.toNat % 2 == 1

def empty : CharSet := ⟨#[]⟩

/-- Every character. The code points from 0xD800 to 0xDFFF are none. -/
def all : CharSet := ⟨#[0, 0xD800, 0xE000, 0x110000]⟩

def only (c : Char) : CharSet := ⟨#[c.toNat, c.toNat + 1]⟩

/-- The characters from `low` to `high`, both included. -/
def range (low high : Char) : CharSet :=
  if high < low then empty
  else if low.toNat < 0xD800 ∧ 0xE000 ≤ high.toNat then
    ⟨#[low.toNat, 0xD800, 0xE000, high.toNat + 1]⟩
  else ⟨#[low.toNat, high.toNat + 1]⟩

def isEmpty (s : CharSet) : Bool := s.bounds.isEmpty

/-- The one character in the set, if there is just one. -/
def single? (s : CharSet) : Option Char :=
  match s.bounds with
  | #[low, high] => if high = low + 1 then some (Char.ofNat low) else none
  | _ => none

/-- The bounds of what `op` makes of two memberships, given those before the bounds that follow.
A bound stays where the outcome changes. -/
def combineFrom (op : Bool → Bool → Bool) (a b : Bool) : List Nat → List Nat → List Nat
  | [], [] => []
  | x :: xs, [] =>
    let rest := combineFrom op (!a) b xs []
    if op (!a) b = op a b then rest else x :: rest
  | [], y :: ys =>
    let rest := combineFrom op a (!b) [] ys
    if op a (!b) = op a b then rest else y :: rest
  | x :: xs, y :: ys =>
    if x < y then
      let rest := combineFrom op (!a) b xs (y :: ys)
      if op (!a) b = op a b then rest else x :: rest
    else if y < x then
      let rest := combineFrom op a (!b) (x :: xs) ys
      if op a (!b) = op a b then rest else y :: rest
    else
      let rest := combineFrom op (!a) (!b) xs ys
      if op (!a) (!b) = op a b then rest else x :: rest
  termination_by xs ys => xs.length + ys.length

/-- The characters whose memberships in two sets `op` accepts; it must not accept two absences. -/
def combine (op : Bool → Bool → Bool) (a b : CharSet) : CharSet :=
  ⟨(combineFrom op false false a.bounds.toList b.bounds.toList).toArray⟩

def union : CharSet → CharSet → CharSet := combine (· || ·)

def inter : CharSet → CharSet → CharSet := combine (· && ·)

/-- The characters of the first set that the second one lacks. -/
def diff : CharSet → CharSet → CharSet := combine fun a b => a && !b

/-- The characters in exactly one of two sets. -/
def symmDiff : CharSet → CharSet → CharSet := combine (· != ·)

def compl (s : CharSet) : CharSet := all.diff s

/-- The unions of every two neighbours. -/
def unionPairs : List CharSet → List CharSet
  | a :: b :: rest => union a b :: unionPairs rest
  | rest => rest

/-- The union of many sets, after a number of rounds in which they are put together two by two. -/
def unionRounds : Nat → List CharSet → CharSet
  | 0, sets => sets.foldl union empty
  | n + 1, sets => unionRounds n (unionPairs sets)

/-- The union of many sets. -/
def unions (sets : List CharSet) : CharSet := unionRounds sets.length.log2 sets

/-- The union of ranges, each given by its ends. -/
def ranges (ends : List (Char × Char)) : CharSet :=
  unions (ends.map fun (low, high) => range low high)

/-- The set of the given characters. -/
def ofChars (chars : List Char) : CharSet := unions (chars.map only)

/-- The runs of neighbouring code points in the set: the first one and the last one of each. -/
def runs (s : CharSet) : List (Nat × Nat) := pairs s.bounds.toList
where
  pairs : List Nat → List (Nat × Nat)
    | low :: high :: rest => (low, high - 1) :: pairs rest
    | _ => []

@[simp] theorem contains_empty (c : Char) : empty.contains c = false := by
  simp [contains, empty, rank, rank.search]

@[simp] theorem combineFrom_nil (op : Bool → Bool → Bool) (a b : Bool) :
    combineFrom op a b [] [] = [] := by
  simp [combineFrom]

theorem contains_only (x c : Char) : (only x).contains c = (x == c) := by
  have h : x = c ↔ x.toNat = c.toNat :=
    ⟨fun h => h ▸ rfl, fun h => Char.ext (UInt32.toNat_inj.mp h)⟩
  rw [Bool.eq_iff_iff, beq_iff_eq, h]
  simp only [contains, only, rank]
  simp only [rank.search, List.size_toArray, List.length_cons, List.length_nil]
  by_cases h₁ : x.toNat + 1 ≤ c.toNat <;> by_cases h₂ : x.toNat ≤ c.toNat <;>
    simp [h₁, h₂] <;> omega

end CharSet

end Interception
