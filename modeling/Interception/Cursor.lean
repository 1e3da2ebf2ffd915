/-!
# Places in a text

A cursor is a place between two characters. It knows the character before it and the text after
it, so that a condition on a place can look to either side.
-/

namespace Interception

/-- A place in a text: the character before it, and the text after it with its length. -/
structure Cursor where
  before : Option Char
  rest : List Char
  left : Nat
  left_eq : left = rest.length
  deriving DecidableEq, Repr

namespace Cursor

/-- The place at the beginning of `text`. -/
def start (text : List Char) : Cursor := ⟨none, text, text.length, rfl⟩

theorem left_of_cons {x : Char} {rest : List Char} {left : Nat} (h : left = (x :: rest).length) :
    left - 1 = rest.length := by
  rw [h, List.length_cons, Nat.add_sub_cancel]

/-- The next character, and the place after it. -/
def next? : Cursor → Option (Char × Cursor)
  | ⟨_, [], _, _⟩ => none
  | ⟨_, x :: rest, left, h⟩ => some (x, ⟨some x, rest, left - 1, left_of_cons h⟩)

/-- What lies between a place and a later one. -/
def upTo (c later : Cursor) : List Char := c.rest.take (c.left - later.left)

@[simp] theorem start_rest (text : List Char) : (start text).rest = text := rfl

theorem rest_of_next? {c later : Cursor} {x : Char} (h : c.next? = some (x, later)) :
    c.rest = x :: later.rest := by
  obtain ⟨_, rest, _, _⟩ := c
  cases rest with
  | nil => simp [next?] at h
  | cons y rest =>
    simp only [next?, Option.some.injEq, Prod.mk.injEq] at h
    obtain ⟨rfl, rfl⟩ := h
    rfl

theorem left_of_next? {c later : Cursor} {x : Char} (h : c.next? = some (x, later)) :
    c.left = later.left + 1 := by
  rw [c.left_eq, later.left_eq, rest_of_next? h, List.length_cons]

theorem before_of_next? {c later : Cursor} {x : Char} (h : c.next? = some (x, later)) :
    later.before = some x := by
  obtain ⟨_, rest, _, _⟩ := c
  cases rest with
  | nil => cases h
  | cons y rest =>
    obtain ⟨rfl, rfl⟩ := Prod.mk.inj (Option.some.inj h)
    rfl

theorem exists_next? {c : Cursor} {x : Char} {tail : List Char} (h : c.rest = x :: tail) :
    ∃ later, c.next? = some (x, later) ∧ later.rest = tail := by
  obtain ⟨before, rest, left, left_eq⟩ := c
  obtain rfl : rest = x :: tail := h
  exact ⟨_, rfl, rfl⟩

end Cursor

/-- What lies between two places. -/
structure Span where
  start : Cursor
  stop : Cursor
  deriving DecidableEq, Repr

namespace Span

def text (s : Span) : List Char := s.start.upTo s.stop

end Span

end Interception
