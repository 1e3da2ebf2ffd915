/-!
# The shortest decimal that reads back

A positive binary number `m * 2 ^ q` is written with the fewest decimal digits that distinguish
it from its neighbours of the same precision, and of several such decimals with the nearest one.
A decimal distinguishes the number if it lies strictly between the midpoints to both neighbours,
or on a midpoint when `m` is even: there the reader rounds to the even side.
-/

namespace Interception.Decimal

/-- The number `digits * 10 ^ exponent`. -/
structure Scaled where
  digits : Nat
  exponent : Int
  deriving DecidableEq, Repr

namespace Scaled

/-- Moves trailing zeros of the digits into the exponent; `fuel` exceeds their number. -/
def strip : Nat → Scaled → Scaled
  | 0, d => d
  | fuel + 1, d =>
    if d.digits % 10 = 0 ∧ d.digits ≠ 0 then strip fuel ⟨d.digits / 10, d.exponent + 1⟩ else d

end Scaled

/-- A positive number with the midpoints to its neighbours, all three over one denominator. -/
structure Interval where
  low : Nat
  value : Nat
  high : Nat
  denominator : Nat
  closed : Bool

namespace Interval

/-- The interval around `m * 2 ^ q`. At a power of two, unless it is the smallest, the lower
neighbour is only half as far. -/
def around (m : Nat) (q : Int) (lowerIsNearer : Bool) : Interval :=
  let factor := Nat.pow 2 (q - 2).toNat
  { low := (4 * m - if lowerIsNearer then 1 else 2) * factor
    value := 4 * m * factor
    high := (4 * m + 2) * factor
    denominator := Nat.pow 2 (2 - q).toNat
    closed := m % 2 == 0 }

/-- The interval in units of `10 ^ k`. -/
def scale (i : Interval) (k : Int) : Interval :=
  let up := Nat.pow 10 (-k).toNat
  { i with
    low := i.low * up
    value := i.value * up
    high := i.high * up
    denominator := i.denominator * Nat.pow 10 k.toNat }

/-- Whether the whole number `n` lies in the interval. -/
def holds (i : Interval) (n : Nat) : Bool :=
  let x := n * i.denominator
  if i.closed then i.low ≤ x && x ≤ i.high else i.low < x && x < i.high

/-- Of the two whole numbers next to the value, the nearer one in the interval; the even one
where both are as near. -/
def nearest? (i : Interval) : Option Nat :=
  let below := i.value / i.denominator
  let above := below + 1
  let toBelow := i.value - below * i.denominator
  let toAbove := above * i.denominator - i.value
  let belowFirst := toBelow < toAbove || (toBelow == toAbove && below % 2 == 0)
  let order := if belowFirst then [below, above] else [above, below]
  order.find? i.holds

/-- The exponent of the value's first decimal digit, for a value below ten times `10 ^ start`
and above `10 ^ (start - fuel)`. -/
def leadingExponent (i : Interval) : Nat → Int → Int
  | 0, k => k
  | fuel + 1, k =>
    let scaled := i.scale k
    if scaled.denominator ≤ scaled.value then k else leadingExponent i fuel (k - 1)

end Interval

/-- The shortest decimal for `m * 2 ^ q`, with the digit count bounded by 17. -/
def shortest (m : Nat) (q : Int) (lowerIsNearer : Bool) : Scaled :=
  let interval := Interval.around m q lowerIsNearer
  let binary := (m.log2 : Int) + q
  -- The decimal logarithm of two lies between 0.301 and 0.302.
  let top := (if 0 ≤ binary then binary * 302 else binary * 301) / 1000 + 1
  let first := interval.leadingExponent 400 top
  let grids := (List.range 17).map fun (n : Nat) => first - (n : Int)
  let found := grids.findSome? fun (k : Int) =>
    (interval.scale k).nearest?.map fun digits => (⟨digits, k⟩ : Scaled)
  match found with
  | some d => d.strip 20
  | none => ⟨m, q⟩

/-- The parts of a floating point number. -/
inductive Parts where
  | finite (negative : Bool) (m : Nat) (q : Int) (lowerIsNearer : Bool)
  | infinite (negative : Bool)
  | nan
  deriving DecidableEq, Repr

namespace Parts

/-- Takes apart the 64 bits of a floating point number. -/
def ofBits (bits : UInt64) : Parts :=
  let n := bits.toNat
  let negative := n.testBit 63
  let exponent : Nat := n / Nat.pow 2 52 % Nat.pow 2 11
  let fraction : Nat := n % Nat.pow 2 52
  if exponent = 2047 then if fraction = 0 then .infinite negative else .nan
  else if exponent = 0 then .finite negative fraction (-1074) false
  else .finite negative (fraction + Nat.pow 2 52) (Int.ofNat exponent - 1075)
    (fraction == 0 && exponent != 1)

end Parts

end Interception.Decimal
