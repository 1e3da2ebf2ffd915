/-!
# Percent-encoded text

A percent sign with two hexadecimal digits stands for a byte, every other character for its UTF-8
bytes. Text is decoded byte by byte and read as UTF-8 in the end; a percent sign without two
digits after it stands for itself.
-/

namespace Interception.Percent

def hexValue? (c : Char) : Option Nat :=
  if '0' ≤ c ∧ c ≤ '9' then some (c.toNat - '0'.toNat)
  else if 'a' ≤ c ∧ c ≤ 'f' then some (c.toNat - 'a'.toNat + 10)
  else if 'A' ≤ c ∧ c ≤ 'F' then some (c.toNat - 'A'.toNat + 10)
  else none

/-- The byte that two hexadecimal digits write. -/
def byte? (a b : Char) : Option UInt8 :=
  match hexValue? a, hexValue? b with
  | some x, some y => some (UInt8.ofNat (x * 16 + y))
  | _, _ => none

/-- The bytes that a text stands for. -/
def bytes : List Char → List UInt8
  | '%' :: a :: b :: rest =>
    match byte? a b with
    | some byte => byte :: bytes rest
    | none => String.utf8EncodeChar '%' ++ bytes (a :: b :: rest)
  | c :: rest => String.utf8EncodeChar c ++ bytes rest
  | [] => []

/-- The text with given UTF-8 bytes. -/
def ofUtf8? (bytes : List UInt8) : Option (List Char) :=
  (String.fromUTF8? ⟨bytes.toArray⟩).map String.toList

/-- The text that a percent-encoded text stands for, if its bytes are UTF-8. -/
def decode? (text : List Char) : Option (List Char) := ofUtf8? (bytes text)

end Interception.Percent
