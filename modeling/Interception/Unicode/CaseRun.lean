/-!
# Runs of letters

Letters of an alphabet mostly stand at the same distance from their counterparts in the other case.
A `CaseRun` is a row of such letters; mappings between letters are lists of runs.
-/

namespace Interception.Unicode

/-- Code points `first`, `first + stride`, …, `count` of them, all moved by `shift`. -/
structure CaseRun where
  first : Nat
  count : Nat
  stride : Nat
  shift : Int

namespace CaseRun

/-- Where the run moves the code point `n`, if the run has it. -/
def move? (run : CaseRun) (n : Nat) : Option Char :=
  if run.first ≤ n ∧ n < run.first + run.count * run.stride ∧ (n - run.first) % run.stride = 0 then
    some (Char.ofNat (n + run.shift).toNat)
  else none

/-- The code point that the run moves to `n`, if there is one. -/
def source? (run : CaseRun) (n : Nat) : Option Char :=
  let source := (n - run.shift).toNat
  match run.move? source with
  | some target => if target.toNat = n then some (Char.ofNat source) else none
  | none => none

/-- Each character of the run, with the one that it is moved to. -/
def entries (run : CaseRun) : List (Char × Char) :=
  (List.range run.count).map fun i =>
    let n := run.first + i * run.stride
    (Char.ofNat n, Char.ofNat (n + run.shift).toNat)

end CaseRun

/-- The small letter to a capital of ASCII, and every other character itself. -/
def lowercaseAscii (c : Char) : Char :=
  if 'A' ≤ c ∧ c ≤ 'Z' then Char.ofNat (c.toNat + 32) else c

end Interception.Unicode
