import Interception.Json.Basic

/-!
# Reading JSON

`Json.parse? text` is the value that `text` writes, or nothing when it writes none. Of several
fields with one key the last one counts. A whole number that fits neither 64 bits with a sign nor
64 bits without one becomes a number with a fraction, and so does the negative zero.
-/

namespace Interception.Json

def isSpace (c : Char) : Bool := c == ' ' || c == '\t' || c == '\n' || c == '\r'

def skipSpace (text : List Char) : List Char := text.dropWhile isSpace

/-- The value of four hexadecimal digits. -/
def hex4? (a b c d : Char) : Option Nat :=
  [a, b, c, d].foldlM (fun n x =>
    if x.isDigit then some (n * 16 + (x.toNat - '0'.toNat))
    else if 'a' ≤ x ∧ x ≤ 'f' then some (n * 16 + (x.toNat - 'a'.toNat + 10))
    else if 'A' ≤ x ∧ x ≤ 'F' then some (n * 16 + (x.toNat - 'A'.toNat + 10))
    else none) 0

/-- The character that a one-letter escape stands for. -/
def escapeMeaning? : Char → Option Char
  | '"' => some '"'
  | '\\' => some '\\'
  | '/' => some '/'
  | 'b' => some '\x08'
  | 'f' => some '\x0c'
  | 'n' => some '\n'
  | 'r' => some '\r'
  | 't' => some '\t'
  | _ => none

def isHighSurrogate (n : Nat) : Bool := 0xD800 ≤ n && n < 0xDC00

def isLowSurrogate (n : Nat) : Bool := 0xDC00 ≤ n && n < 0xE000

/-- A string after its opening quotation mark, through the closing one. A pair of surrogates is
one character; a surrogate alone is none. -/
def readString? : List Char → Option (List Char × List Char)
  | [] => none
  | '"' :: rest => some ([], rest)
  | '\\' :: 'u' :: a :: b :: c :: d :: rest => do
    let n ← hex4? a b c d
    if isHighSurrogate n then
      match rest with
      | '\\' :: 'u' :: e :: f :: g :: h :: rest =>
        let low ← hex4? e f g h
        if isLowSurrogate low then
          let (text, rest) ← readString? rest
          return (Char.ofNat (0x10000 + (n - 0xD800) * 0x400 + (low - 0xDC00)) :: text, rest)
        else none
      | _ => none
    else if isLowSurrogate n then none
    else
      let (text, rest) ← readString? rest
      return (Char.ofNat n :: text, rest)
  | '\\' :: c :: rest => do
    let x ← escapeMeaning? c
    let (text, rest) ← readString? rest
    return (x :: text, rest)
  | c :: rest =>
    if c.toNat < 32 ∨ c = '\\' then none
    else do
      let (text, rest) ← readString? rest
      return (c :: text, rest)

/-! ## Numbers -/

def maxWord : Nat := UInt64.size - 1

/-- The powers of ten up to the largest one below the largest number with a fraction. -/
def powerOfTen? (n : Nat) : Option Float :=
  if n ≤ 308 then some (Float.ofScientific 1 false n) else none

/-- `f * 10 ^ exponent`, one power at a time; nothing if that is too large. `fuel` exceeds the
number of steps, each of which divides by `10 ^ 308`. -/
def scaled? : Nat → Float → Int → Option Float
  | 0, _, _ => none
  | fuel + 1, f, exponent =>
    match powerOfTen? exponent.natAbs with
    | some power =>
      if 0 ≤ exponent then
        let product := f * power
        if product.isInf then none else some product
      else some (f / power)
    | none =>
      if f == 0.0 then some f
      else if 0 ≤ exponent then none
      else scaled? fuel (f / Float.ofScientific 1 false 308) (exponent + 308)

/-- The digits of a number read so far. Digits that would not fit 64 bits are dropped; in front
of the point each of them still counts for the exponent. -/
structure Significand where
  value : Nat
  exponent : Int
  full : Bool

namespace Significand

/-- Takes a digit in front of the point. -/
def takeWhole (s : Significand) (c : Char) : Significand :=
  let next := s.value * 10 + (c.toNat - '0'.toNat)
  if s.full || maxWord < next then { s with exponent := s.exponent + 1, full := true }
  else { s with value := next }

/-- Takes a digit behind the point. -/
def takeFraction (s : Significand) (c : Char) : Significand :=
  let next := s.value * 10 + (c.toNat - '0'.toNat)
  if s.full || maxWord < next then { s with full := true }
  else { s with value := next, exponent := s.exponent - 1 }

end Significand

/-- The exponent after its letter: how many powers of ten, through the last digit. -/
def readExponent? (text : List Char) : Option (Int × List Char) :=
  let (negative, rest) := match text with
    | '+' :: rest => (false, rest)
    | '-' :: rest => (true, rest)
    | rest => (false, rest)
  match rest.span Char.isDigit with
  | ([], _) => none
  | (digits, rest) =>
    let n : Nat := digits.foldl (fun n c => n * 10 + (c.toNat - '0'.toNat)) 0
    some (if negative then -(n : Int) else n, rest)

/-- `value * 10 ^ exponent` with a sign, where an exponent beyond all bounds gives zero or
nothing. -/
def realOf? (negative : Bool) (value : Nat) (exponent : Int) : Option Json :=
  let f := (UInt64.ofNat value).toFloat
  let magnitude := if exponent < -10000 then some 0.0 else scaled? 64 f exponent
  magnitude.map fun x => .real (if negative then -x else x)

/-- A number, from its first digit on. -/
def readNumber? (negative : Bool) (text : List Char) : Option (Json × List Char) := do
  let (whole, rest) := text.span Char.isDigit
  match whole with
  | [] => none
  | '0' :: _ :: _ => none
  | _ => pure ()
  let whole := whole.foldl Significand.takeWhole ⟨0, 0, false⟩
  let (s, isReal, rest) ← match rest with
    | '.' :: rest =>
      match rest.span Char.isDigit with
      | ([], _) => none
      | (fraction, rest) =>
        let whole := { whole with full := false }
        some (fraction.foldl Significand.takeFraction whole, true, rest)
    | rest => some (whole, whole.full, rest)
  match rest with
  | e :: rest =>
    if e = 'e' ∨ e = 'E' then
      let (n, rest) ← readExponent? rest
      return (← realOf? negative s.value (s.exponent + n), rest)
  | [] => pure ()
  if isReal then return (← realOf? negative s.value s.exponent, rest)
  else if negative then
    if s.value = 0 ∨ UInt64.size / 2 < s.value then
      return (.real (-(UInt64.ofNat s.value).toFloat), rest)
    else return (.int (-(s.value : Int)), rest)
  else return (.int s.value, rest)

/-! ## Values -/

/-- Cuts a word off the beginning of a text. -/
def dropWord? (word : List Char) (text : List Char) : Option (List Char) :=
  if word.isPrefixOf text then some (text.drop word.length) else none

mutual

/-- A value and what follows it; `fuel` exceeds the length of the text. -/
def readValue? : Nat → List Char → Option (Json × List Char)
  | 0, _ => none
  | fuel + 1, text =>
    match skipSpace text with
    | '"' :: rest => (readString? rest).map fun (s, rest) => (.str (String.ofList s), rest)
    | '[' :: rest =>
      match skipSpace rest with
      | ']' :: rest => some (.arr [], rest)
      | rest => (readItems? fuel rest).map fun (items, rest) => (.arr items, rest)
    | '\x7b' :: rest =>
      match skipSpace rest with
      | '\x7d' :: rest => some (.obj [], rest)
      | rest => (readFields? fuel [] rest).map fun (fields, rest) => (.obj fields, rest)
    | '-' :: rest => readNumber? true rest
    | 't' :: rest => (dropWord? ['r', 'u', 'e'] rest).map (.bool true, ·)
    | 'f' :: rest => (dropWord? ['a', 'l', 's', 'e'] rest).map (.bool false, ·)
    | 'n' :: rest => (dropWord? ['u', 'l', 'l'] rest).map (.null, ·)
    | rest => readNumber? false rest

def readItems? : Nat → List Char → Option (List Json × List Char)
  | 0, _ => none
  | fuel + 1, text =>
    match readValue? fuel text with
    | none => none
    | some (item, rest) =>
      match skipSpace rest with
      | ']' :: rest => some ([item], rest)
      | ',' :: rest => (readItems? fuel rest).map fun (items, rest) => (item :: items, rest)
      | _ => none

def readFields? : Nat → List (String × Json) → List Char →
    Option (List (String × Json) × List Char)
  | 0, _, _ => none
  | fuel + 1, fields, text =>
    match skipSpace text with
    | '"' :: rest =>
      match readString? rest with
      | none => none
      | some (key, rest) =>
        match skipSpace rest with
        | ':' :: rest =>
          match readValue? fuel rest with
          | none => none
          | some (value, rest) =>
            let fields := Ordered.insert (String.ofList key) value fields
            match skipSpace rest with
            | '\x7d' :: rest => some (fields, rest)
            | ',' :: rest => readFields? fuel fields rest
            | _ => none
        | _ => none
    | _ => none

end

/-- The value that `text` writes, with blanks around it. -/
def parse? (text : String) : Option Json :=
  let text := text.toList
  match readValue? (text.length + 1) text with
  | some (value, rest) => if (skipSpace rest).isEmpty then some value else none
  | none => none

end Interception.Json
