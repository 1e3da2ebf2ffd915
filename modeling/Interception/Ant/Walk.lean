import Interception.Ant.Segment

/-!
# Matching a row of tokens

The tokens of a pattern and those of a path are matched from left to right. A spread takes any
number of path tokens, few before many; every other token takes one. The first alignment counts. A
token is compiled when a path token is tried against it, and what is wrong with it is found out only
then.

What variables capture is put into one list on the way. An attempt that comes to nothing takes back
what was put there since it began.
-/

namespace Interception.Ant

/-- What the ends of a pattern and a path tell about an alignment of their tokens. -/
structure Ending where
  hasSpread : Bool
  patternEnds : Bool
  pathEnds : Bool
  deriving DecidableEq, Repr

namespace Ending

/-- Whether all tokens of both being used up is enough: with a spread somewhere in the pattern, or
if both or neither end with a separator. -/
def agrees (ending : Ending) : Bool :=
  ending.hasSpread || ending.patternEnds == ending.pathEnds

end Ending

/-- The token that makes a spread. -/
def spreadToken : List Char := ['*', '*']

variable {n : Type → Type} [Monad n]

/-- Whether `f` succeeds on a list, on what is left of it without its head, and so on; it is tried
no further once it has. -/
def anyTail {α : Type} (f : List α → n Bool) : List α → n Bool
  | [] => f []
  | x :: xs => do
    if ← f (x :: xs) then return true
    anyTail f xs

/-- Cuts the list of captures back to its length before `x`, unless `x` succeeds. -/
def attempt (x : StateT Captures n Bool) : StateT Captures n Bool := do
  let mark := (← get).length
  if ← x then return true
  modify (·.take mark)
  return false

/-- Whether a token takes a token of a path. What it captures is put behind the captures so far. -/
def matchSegment (compile : List Char → n Segment) (ignoreCase : Bool) (token text : List Char) :
    StateT Captures n Bool := do
  let segment ← compile token
  match segment.capture? ignoreCase text with
  | some own =>
    modify (· ++ own)
    return true
  | none => return false

/-- Whether the tokens of a pattern and a path align. A lone asterisk at the end of the pattern also
takes the empty rest of a path that ends with a separator. -/
def matchTokens (compile : List Char → n Segment) (ignoreCase : Bool) (ending : Ending) :
    List (List Char) → List (List Char) → StateT Captures n Bool
  | [], path => return path.isEmpty && ending.agrees
  | token :: rest, path =>
    if token = spreadToken then
      anyTail (fun later => attempt (matchTokens compile ignoreCase ending rest later)) path
    else
      match path with
      | [] => return rest.isEmpty && token == ['*'] && ending.pathEnds
      | text :: path => attempt do
        if ← matchSegment compile ignoreCase token text then
          matchTokens compile ignoreCase ending rest path
        else return false

end Interception.Ant
