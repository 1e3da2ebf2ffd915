import Interception.Decimal.Shortest

/-!
# Numbers in JSON

`realText x` writes a number with the fewest digits that read back as `x`. The exponent of the
first digit decides between two notations: positional from `-5` to `15`, where a whole number
keeps one zero behind the point, and scientific elsewhere, with a sign before the exponent.

Reading is not the inverse for every text: a number with a fraction or an exponent is its digits
as a binary number, scaled by one power of ten, and either step may round.
-/

namespace Interception.Json

open Decimal

/-- How far from zero the exponent of the first digit may be in positional notation. -/
structure RealStyle where
  lowest : Int
  highest : Int

/-- Positional from a hundred-thousandth on and below ten quadrillions. -/
def realStyle : RealStyle := ⟨-5, 15⟩

def digitsOf (n : Nat) : List Char := Nat.toDigits 10 n

namespace RealStyle

/-- A number as text: its digits, its exponent, and the notation that is due. -/
def text (style : RealStyle) (d : Scaled) : List Char :=
  let digits := digitsOf d.digits
  let first := d.exponent + digits.length - 1
  if style.lowest ≤ first ∧ first ≤ style.highest then
    if first < 0 then
      ['0', '.'] ++ List.replicate (-first - 1).toNat '0' ++ digits
    else
      let whole := digits.take (first.toNat + 1)
      let fraction := digits.drop (first.toNat + 1)
      whole ++ List.replicate (first.toNat + 1 - whole.length) '0' ++ ['.'] ++
        if fraction.isEmpty then ['0'] else fraction
  else
    let sign := if first < 0 then '-' else '+'
    let mantissa := match digits with
      | [d] => [d]
      | d :: more => d :: '.' :: more
      | [] => []
    mantissa ++ ['e', sign] ++ digitsOf first.natAbs

end RealStyle

/-- The text of a number with a fraction; a value that is no number has the text of nothing. -/
def realText (x : Float) : String :=
  match Parts.ofBits x.toBits with
  | .finite negative 0 _ _ => if negative then "-0.0" else "0.0"
  | .finite negative m q nearer =>
    String.ofList ((if negative then ['-'] else []) ++ realStyle.text (shortest m q nearer))
  | .infinite _ | .nan => "null"

end Interception.Json
