import Interception.Unicode.Property

/-!
# Pieces of text

Texts are lists of characters here. `pieces` cuts a text at every separator and `joined` puts
pieces together again; a text always has at least one piece, the empty text an empty one.
-/

namespace Interception.Text

/-- What lies between the separators. -/
def pieces (separator : Char) : List Char → List (List Char)
  | [] => [[]]
  | c :: rest =>
    match pieces separator rest with
    | [] => [[c]]
    | piece :: others =>
      if c = separator then [] :: piece :: others else (c :: piece) :: others

/-- The pieces with a separator between any two. -/
def joined (separator : Char) : List (List Char) → List Char
  | [] => []
  | [piece] => piece
  | piece :: others => piece ++ separator :: joined separator others

theorem pieces_ne_nil (separator : Char) (text : List Char) : pieces separator text ≠ [] := by
  cases text with
  | nil => simp [pieces]
  | cons c rest =>
    rw [pieces]
    split
    · simp
    · split <;> simp

/-- Cutting and joining is the identity. -/
theorem joined_pieces (separator : Char) (text : List Char) :
    joined separator (pieces separator text) = text := by
  induction text with
  | nil => rfl
  | cons c rest ih =>
    rw [pieces]
    split
    · rename_i h
      exact absurd h (pieces_ne_nil separator rest)
    · rename_i piece others h
      rw [h] at ih
      split
      · rename_i hc
        simp [joined, ih, hc]
      · cases others with
        | nil => simpa [joined] using ih
        | cons other others => simpa [joined] using ih

def startsWith (c : Char) (text : List Char) : Bool := text.head? == some c

def endsWith (c : Char) (text : List Char) : Bool := text.getLast? == some c

/-- Drops the last characters as long as they satisfy `p`. -/
def dropEndWhile (p : Char → Bool) (text : List Char) : List Char :=
  (text.reverse.dropWhile p).reverse

/-- Drops blanks and line breaks, of any script, at both ends. -/
def trim (text : List Char) : List Char :=
  dropEndWhile Unicode.Property.whiteSpace.contains
    (text.dropWhile Unicode.Property.whiteSpace.contains)

/-- What stands before the first character that satisfies `p`. -/
def before (p : Char → Bool) (text : List Char) : List Char := text.takeWhile (!p ·)

/-- What follows `start` in `text`, if the text starts so. -/
def after? : List Char → List Char → Option (List Char)
  | [], text => some text
  | _ :: _, [] => none
  | s :: start, c :: text => if s = c then after? start text else none

end Interception.Text
