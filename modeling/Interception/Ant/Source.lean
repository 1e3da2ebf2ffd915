import Interception.Regex.Parser

/-!
# The regular expression of a token

A token that is more than plain text is translated into the text of a regular expression: `?` into a
point, `*` into a point with a star, and a variable in braces into a group. The group has a name
that is made up for it, and holds the constraint behind the colon as it is written, or a run. Braces
inside a variable are counted, so that a constraint may have braces of its own.

Plain text is gathered, and put behind the source with its signs escaped as soon as something else
follows. Nothing looks at the source before it is complete: a constraint may close the group that it
stands in, and its alternatives may reach beyond it.
-/

namespace Interception.Ant

/-- What is wrong with a token: a variable is not closed, or the text of its regular expression is
none, or too large a one. -/
inductive Fault where
  | unclosedVariable
  | invalidRegex (source : List Char)
  deriving DecidableEq, Repr

/-- Where the reader of a token is: outside of braces, or inside a variable with so many further
braces open, having read `body`, the last character first. -/
inductive Place where
  | outside
  | inside (depth : Nat) (body : List Char)

/-- The text before the first colon and, if there is a colon, the text after it. -/
def splitColon : List Char → List Char × Option (List Char)
  | [] => ([], none)
  | c :: rest =>
    if c = ':' then ([], some rest)
    else
      let (name, constraint) := splitColon rest
      (c :: name, constraint)

/-- The group that captures the variable number `index`. Names that users choose are not names of
groups: they need not be unique or have a certain form. -/
def groupName (index : Nat) : String := "pgv" ++ toString index

/-- The text of a regular expression for one character. -/
def escaped (c : Char) : List Char := if Regex.isMeta c then ['\\', c] else [c]

/-- The text of a regular expression for a text. -/
def escape (text : List Char) : List Char := text.flatMap escaped

/-- What a variable without a constraint takes. -/
def anyText : List Char := ['.', '*']

/-- What a token has been translated into so far: the source of a regular expression, plain text
that is not yet part of it, and the names of the variables. -/
structure Draft where
  source : Array Char
  literal : Array Char
  names : Array (List Char)

namespace Draft

/-- A match has to begin where the text begins. -/
def start : Draft := ⟨#['^'], #[], #[]⟩

def write (d : Draft) (text : List Char) : Draft := { d with source := d.source ++ text }

/-- Makes the plain text that was gathered part of the source. -/
def flush (d : Draft) : Draft :=
  if d.literal.isEmpty then d else { d.write (escape d.literal.toList) with literal := #[] }

/-- Gathers a character of plain text. -/
def gather (d : Draft) (c : Char) : Draft := { d with literal := d.literal.push c }

/-- The variable with a given text between its braces. -/
def putVariable (d : Draft) (body : List Char) : Draft :=
  let (name, constraint) := splitColon body
  let group := "(?P<".toList ++ (groupName d.names.size).toList ++ '>' ::
    (constraint.getD anyText ++ [')'])
  { d.write group with names := d.names.push name }

/-- A match has to end where the text ends. -/
def finish (d : Draft) : Draft := d.flush.write ['$']

/-- Reads a token on from a place in it. -/
def read : Place → Draft → List Char → Except Fault Draft
  | .outside, d, [] => .ok d.finish
  | .inside _ _, _, [] => .error .unclosedVariable
  | .outside, d, c :: rest =>
    match c with
    | '?' => read .outside (d.flush.write ['.']) rest
    | '*' => read .outside (d.flush.write anyText) rest
    | '\x7b' => read (.inside 0 []) d.flush rest
    | c => read .outside (d.gather c) rest
  | .inside depth body, d, c :: rest =>
    match c, depth with
    | '\x7b', depth => read (.inside (depth + 1) (c :: body)) d rest
    | '\x7d', 0 => read .outside (d.putVariable body.reverse) rest
    | '\x7d', depth + 1 => read (.inside depth (c :: body)) d rest
    | c, depth => read (.inside depth (c :: body)) d rest

/-- The draft for a token. -/
def ofToken (token : List Char) : Except Fault Draft := read .outside start token

end Draft

end Interception.Ant
