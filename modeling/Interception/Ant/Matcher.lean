import Interception.Ant.Walk
import Interception.Dict
import Interception.PathMatcher
import Interception.Text

/-!
# The Ant matcher

Patterns and paths are cut into tokens at a separator. A pattern matches a path if both or neither
begin with the separator and their tokens align. Tokens may be trimmed, and case may be ignored.
-/

namespace Interception

/-- How patterns and paths are compared. What the regular expressions say about a text that is none
of them is theirs to word; `wording` tells it for a text, with or without regard to case. -/
structure AntMatcher where
  separator : Char
  caseSensitive : Bool
  trimTokens : Bool
  wording : Bool → List Char → String

namespace AntMatcher

open Ant

/-- The separator of paths, with case and blanks counting. -/
def default : AntMatcher where
  separator := '/'
  caseSensitive := true
  trimTokens := false
  wording _ _ := "not a regular expression"

instance : Inhabited AntMatcher := ⟨default⟩

/-- The pieces between separators that are not empty, after trimming. -/
def tokens (m : AntMatcher) (text : List Char) : List (List Char) :=
  ((Text.pieces m.separator text).map fun token =>
    if m.trimTokens then Text.trim token else token).filter (!·.isEmpty)

def ending (m : AntMatcher) (pattern path : List Char) : Ending where
  hasSpread := (m.tokens pattern).contains spreadToken
  patternEnds := Text.endsWith m.separator pattern
  pathEnds := Text.endsWith m.separator path

def compile (m : AntMatcher) (token : List Char) : Except Fault Segment :=
  Segment.compile (!m.caseSensitive) token

/-- Names a fault's kind with the whole pattern. -/
def faultIn (m : AntMatcher) (pattern : List Char) : Fault → PatternError
  | .unclosedVariable => .unclosedVariable (String.ofList pattern)
  | .invalidRegex source =>
    .invalidRegex (String.ofList pattern) (m.wording (!m.caseSensitive) source)

/-- Whether the pattern matches the path, given how tokens are compiled. What its variables capture
is put behind the captures so far. -/
def matchCapturing {n : Type → Type} [Monad n] (m : AntMatcher)
    (compile : List Char → n Segment) (pattern path : List Char) : StateT Captures n Bool :=
  if Text.startsWith m.separator path != Text.startsWith m.separator pattern then return false
  else
    matchTokens compile (!m.caseSensitive) (m.ending pattern path) (m.tokens pattern)
      (m.tokens path)

/-- A result with its fault named in the pattern. -/
def named {α : Type} (m : AntMatcher) (pattern : List Char) (result : Except Fault α) :
    Except PatternError α :=
  result.mapError (m.faultIn pattern)

/-- The variables of a match by name, where the last capture for a name counts. No match is an
error here. -/
def bindings (pattern path : List Char) : Bool × Captures → Except PatternError (Dict String)
  | (true, captures) =>
    .ok (Dict.ofList (captures.map fun (name, value) => (String.ofList name, String.ofList value)))
  | (false, _) => .error (.noMatch (String.ofList pattern) (String.ofList path))

def isMatch (m : AntMatcher) (pattern path : List Char) : Except PatternError Bool :=
  m.named pattern ((m.matchCapturing m.compile pattern path).run' [])

/-- The variables of `pattern` as they stand in `path`. -/
def extract (m : AntMatcher) (pattern path : List Char) : Except PatternError (Dict String) := do
  bindings pattern path (← m.named pattern ((m.matchCapturing m.compile pattern path).run []))

def toPathMatcher (m : AntMatcher) : PathMatcher :=
  .ofFunction fun pattern path => m.isMatch pattern.toList path.toList

end AntMatcher

end Interception
