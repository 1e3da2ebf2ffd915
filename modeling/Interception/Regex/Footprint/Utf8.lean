import Interception.CharSet

/-!
# Sets of characters as rows of bytes

A text is a row of bytes in UTF-8, and a machine that reads bytes takes a set of characters apart
into rows of byte ranges, such that a character is in the set if and only if its bytes lie in the
ranges of one row. The rows come in the order of their characters.
-/

namespace Interception.Regex

/-- The bytes from `low` to `high`. -/
structure ByteRange where
  low : UInt8
  high : UInt8
  deriving DecidableEq, Repr

/-- Cuts the numbers from `low` to `high` where a block of `m` ends in which the first or the last
of them lies, unless all lie in one block: what is left in the middle is made of whole blocks. -/
def cutBlocks (m : Nat) : Nat × Nat → List (Nat × Nat)
  | (low, high) =>
    if low / m = high / m then [(low, high)]
    else
      let first := (low + m - 1) / m * m
      let last := (high + 1) / m * m
      (if low < first then [(low, first - 1)] else []) ++
        (if first < last then [(first, last - 1)] else []) ++
        (if last ≤ high then [(last, high)] else [])

/-- Cuts the numbers from `low` to `high` so that those up to `limit` are apart from the others. -/
def cutAfter (limit : Nat) : Nat × Nat → List (Nat × Nat)
  | (low, high) =>
    if low ≤ limit ∧ limit < high then [(low, limit), (limit + 1, high)] else [(low, high)]

/-- The runs of code points that are one row of byte ranges each. Their ends have bytes of the same
number, and from the first byte in which they differ every byte takes its whole range. -/
def cutRows (run : Nat × Nat) : List (Nat × Nat) :=
  [run].flatMap (cutAfter 0x7F) |>.flatMap (cutAfter 0x7FF) |>.flatMap (cutAfter 0xFFFF)
    |>.flatMap fun run =>
      if run.2 ≤ 0x7F then [run]
      else [run].flatMap (cutBlocks 0x40) |>.flatMap (cutBlocks 0x1000)
        |>.flatMap (cutBlocks 0x40000)

/-- The byte ranges between the bytes of the first and the last character of a run. -/
def byteRow (run : Nat × Nat) : List ByteRange :=
  let bytes (n : Nat) : List UInt8 := String.utf8EncodeChar (Char.ofNat n)
  ((bytes run.1).zip (bytes run.2)).map fun (low, high) => ⟨low, high⟩

/-- The rows of byte ranges for a set. -/
def byteRows (s : CharSet) : List (List ByteRange) := (s.runs.flatMap cutRows).map byteRow

end Interception.Regex
