/-!
# Lengths of time as text

A length of time is a number of nanoseconds. It is written in the largest unit of which it has at
least one, with as many decimal places as it needs.
-/

namespace Interception.Duration

/-- Pads a number with zeros in front to a width. -/
def padded (width n : Nat) : List Char :=
  let digits := Nat.toDigits 10 n
  List.replicate (width - digits.length) '0' ++ digits

/-- The digits after the point of `n / 10 ^ places`, without zeros at the end. -/
def fraction (places n : Nat) : List Char :=
  ((padded places (n % Nat.pow 10 places)).reverse.dropWhile (· == '0')).reverse

/-- What stands behind the whole number, if anything does. -/
def pointed : List Char → List Char
  | [] => []
  | fraction => '.' :: fraction

/-- `n / 10 ^ places` as a decimal number. -/
def numeral (places n : Nat) : List Char :=
  Nat.toDigits 10 (n / Nat.pow 10 places) ++ pointed (fraction places n)

/-- The unit for a number of nanoseconds: the decimal places that a nanosecond has in it, and its
name. -/
def unit (nanoseconds : Nat) : Nat × String :=
  if Nat.pow 10 9 ≤ nanoseconds then (9, "s")
  else if Nat.pow 10 6 ≤ nanoseconds then (6, "ms")
  else if Nat.pow 10 3 ≤ nanoseconds then (3, "µs")
  else (0, "ns")

def text (nanoseconds : Nat) : String :=
  let (places, name) := unit nanoseconds
  String.ofList (numeral places nanoseconds) ++ name

end Interception.Duration
