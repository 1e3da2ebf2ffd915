import Interception.Ant.Source
import Interception.Regex.Program
import Interception.Unicode.Case

/-!
# Segments

A segment is a token of a pattern that is ready to be matched with one token of a path: a lone
asterisk, plain text, or a regular expression. It captures a name and a value for each variable, in
order.
-/

namespace Interception.Ant

/-- What the variables of one or more tokens captured, in order. -/
abbrev Captures := List (List Char × List Char)

inductive Segment where
  | any
  | literal (text : List Char)
  | pattern (program : Regex.Program) (names : List (List Char))

/-- Whether a token is more than plain text. -/
def isTemplate (token : List Char) : Bool := token.any fun c => c == '*' || c == '?' || c == '\x7b'

namespace Segment

/-- The segment that a token writes. -/
def compile (ignoreCase : Bool) (token : List Char) : Except Fault Segment :=
  if token = ['*'] then .ok .any
  else if isTemplate token then do
    let draft ← Draft.ofToken token
    let source := draft.source.toList
    match Regex.Program.compile? ignoreCase source with
    | some program => return .pattern program draft.names.toList
    | none => throw (.invalidRegex source)
  else return .literal token

/-- What the groups of a match took, under the names of their variables. A group that took no part
in the match captures nothing. -/
def captures (program : Regex.Program) (names : List (List Char)) (marks : List Regex.Mark) :
    Captures :=
  names.zipIdx.filterMap fun (name, index) =>
    (program.named? marks (groupName index)).map (name, ·)

/-- What the segment captures from a token of a path, if it accepts it. -/
def capture? (ignoreCase : Bool) (segment : Segment) (text : List Char) : Option Captures :=
  match segment with
  | .any => some []
  | .literal expected =>
    if ignoreCase then
      if Unicode.lowercase expected = Unicode.lowercase text then some [] else none
    else if expected = text then some [] else none
  | .pattern program names => (program.search? text).map (captures program names)

def accepts (ignoreCase : Bool) (segment : Segment) (text : List Char) : Bool :=
  (segment.capture? ignoreCase text).isSome

def isAny : Segment → Bool
  | .any => true
  | _ => false

end Segment

end Interception.Ant
