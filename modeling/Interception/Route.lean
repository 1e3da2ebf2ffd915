import Interception.PathMatcher
import Interception.Text

/-!
# Routes

A route is text with parameters in braces. A parameter takes a part of one path segment that is
not empty, with fixed text before and after it; the route's last parameter may be starred and then
takes the whole rest of the path. A doubled brace is escaped: it is a brace and opens or closes
nothing. An escaped brace right behind a parameter is refused unless the parameter's name is one
byte: the longer name moves the escape away from its brace, which then opens or closes something.

A route is read in three steps: its signs, its tokens, and its parts. Names are judged for the
whole route before the places of parameters are.
-/

namespace Interception

/-- Why a text is no route. -/
inductive RouteFault where
  | badName
  | twoInSegment
  | starNotLast
  deriving DecidableEq, Repr

namespace RouteFault

def message : RouteFault → String
  | .badName => "Parameters must be registered with a valid name"
  | .twoInSegment => "Only one parameter is allowed per path segment"
  | .starNotLast => "Catch-all parameters are only allowed at the end of a route"

end RouteFault

namespace Route

/-- A character of a route. A brace that was written twice is escaped. -/
structure Sign where
  char : Char
  escaped : Bool
  deriving DecidableEq, Repr

/-- The signs of a text. -/
def signs : List Char → List Sign
  | [] => []
  | '\x7b' :: '\x7b' :: rest => ⟨'\x7b', true⟩ :: signs rest
  | '\x7d' :: '\x7d' :: rest => ⟨'\x7d', true⟩ :: signs rest
  | c :: rest => ⟨c, false⟩ :: signs rest

inductive Token where
  | char (c : Char)
  | parameter
  | starred
  deriving DecidableEq, Repr

/-- Where a reader of tokens is: outside of parameters, right behind one with a name of so many
bytes, after an opening brace, or in a name. -/
inductive Place where
  | outside
  | behind (nameSize : Nat)
  | opened
  | inName (starred : Bool) (onlyStar : Bool) (size : Nat)
  deriving DecidableEq, Repr

/-- How many bytes ahead a character has to begin to count as escaped, for each escape that has
been moved. -/
abbrev Ahead := List Nat

/-- Whether a sign counts as escaped at a place, and what is ahead there. Right behind a parameter
an escape is moved on, by one byte less than the name of the parameter has. -/
def isEscaped (place : Place) (ahead : Ahead) (sign : Sign) : Bool × Ahead :=
  let escaped := sign.escaped || ahead.contains 0
  match place with
  | .behind nameSize =>
    if escaped then (nameSize ≤ 1, (nameSize - 1) :: ahead.filter (· != 0)) else (false, ahead)
  | _ => (escaped, ahead)

/-- What is ahead after a character. -/
def pass (c : Char) (ahead : Ahead) : Ahead :=
  (ahead.filter (c.utf8Size ≤ ·)).map (· - c.utf8Size)

/-- The tokens of a row of signs. A name is not empty, and after its first sign it has neither an
asterisk nor a slash; the asterisk that stars a parameter is no name. -/
def tokens? : Place → Ahead → List Sign → Option (List Token)
  | .outside, _, [] | .behind _, _, [] => some []
  | _, _, [] => none
  | place, ahead, sign :: rest =>
    let c := sign.char
    let (escaped, ahead) := isEscaped place ahead sign
    let ahead := pass c ahead
    match place with
    | .opened =>
      if c = '\x7d' then none
      else tokens? (.inName (c == '*') (c == '*') c.utf8Size) ahead rest
    | .inName starred onlyStar size =>
      if c = '\x7d' ∧ !escaped then
        if onlyStar then none
        else if starred then (tokens? .outside ahead rest).map (.starred :: ·)
        else (tokens? (.behind size) ahead rest).map (.parameter :: ·)
      else if c = '*' ∨ c = '/' then none
      else tokens? (.inName starred false (size + c.utf8Size)) ahead rest
    | _ =>
      if c = '\x7b' ∧ !escaped then tokens? .opened ahead rest
      else if c = '\x7d' ∧ !escaped then none
      else (tokens? .outside ahead rest).map (.char c :: ·)

/-- Fixed text, a parameter with the fixed text after it through the next slash, or the rest. -/
inductive Part where
  | fixed (text : List Char)
  | parameter (suffix : List Char)
  | rest
  deriving DecidableEq, Repr

/-- The parts of a row of tokens; `text` is the fixed text read so far, the last character first,
and `inSegment` tells whether it follows a parameter of the same segment. -/
def parts (inSegment : Bool) (text : List Char) : List Token → Except RouteFault (List Part)
  | [] => .ok [if inSegment then .parameter text.reverse else .fixed text.reverse]
  | .char c :: tokens =>
    if inSegment && c == '/' then
      (parts false [] tokens).map (.parameter (c :: text).reverse :: ·)
    else parts inSegment (c :: text) tokens
  | .starred :: tokens =>
    if inSegment then .error .twoInSegment
    else if tokens.isEmpty then .ok [.fixed text.reverse, .rest]
    else .error .starNotLast
  | .parameter :: tokens =>
    if inSegment then .error .twoInSegment
    else (parts true [] tokens).map (.fixed text.reverse :: ·)

/-- The parts of a route, or why the text is none. -/
def parse (route : List Char) : Except RouteFault (List Part) :=
  match tokens? .outside [] (signs route) with
  | none => .error .badName
  | some tokens => parts false [] tokens

/-- Whether `suffix` ends `text` and is not all of it. -/
def properSuffix (suffix text : List Char) : Bool :=
  suffix.length < text.length && suffix.isSuffixOf text

/-- Whether a path is made of the parts. -/
def accepts : List Part → List Char → Bool
  | [], path => path.isEmpty
  | .fixed text :: others, path =>
    match Text.after? text path with
    | some rest => accepts others rest
    | none => false
  | .parameter suffix :: others, path =>
    let run := path.takeWhile (· != '/')
    match path.dropWhile (· != '/') with
    | [] => !Text.endsWith '/' suffix && properSuffix suffix run && accepts others []
    | slash :: rest =>
      Text.endsWith '/' suffix && properSuffix suffix (run ++ [slash]) && accepts others rest
  | .rest :: _, path => !path.isEmpty

/-- Whether the path matches the route. -/
def isMatch (route path : String) : Except PatternError Bool :=
  match parse route.toList with
  | .ok parts => .ok (accepts parts path.toList)
  | .error fault => .error (.rejected route fault.message)

/-- The matcher for routes. Only braces make a pattern. -/
def matcher : PathMatcher := ⟨fun path => path.toList.contains '\x7b', isMatch⟩

end Route

end Interception
