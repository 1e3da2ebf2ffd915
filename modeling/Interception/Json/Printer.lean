import Interception.Json.Basic
import Interception.Json.Number

/-!
# Writing JSON

Two layouts of one text: `compact` puts no blanks between the signs, `pretty` puts every item and
every field on a line of its own, two blanks deeper than what holds it. In both, a quotation mark,
a backslash and the control characters below the blank are escaped, and nothing else.
-/

namespace Interception.Json

def hexDigit (n : Nat) : Char := Nat.digitChar n

/-- A character as it is written inside a string. -/
def escaped (c : Char) : List Char :=
  match c with
  | '"' => ['\\', '"']
  | '\\' => ['\\', '\\']
  | '\x08' => ['\\', 'b']
  | '\x0c' => ['\\', 'f']
  | '\n' => ['\\', 'n']
  | '\r' => ['\\', 'r']
  | '\t' => ['\\', 't']
  | c =>
    if c.toNat < 32 then ['\\', 'u', '0', '0', hexDigit (c.toNat / 16), hexDigit (c.toNat % 16)]
    else [c]

def quoted (s : String) : String := String.ofList ('"' :: s.toList.flatMap escaped ++ ['"'])

/-- A value without parts as text. -/
def scalarText : Json → String
  | .null => "null"
  | .bool true => "true"
  | .bool false => "false"
  | .int n => toString n
  | .real x => realText x
  | .str s => quoted s
  | .arr _ | .obj _ => ""

mutual

def compact : Json → String
  | .arr items => "[" ++ compactItems items ++ "]"
  | .obj fields => "\x7b" ++ compactFields fields ++ "\x7d"
  | scalar => scalarText scalar

def compactItems : List Json → String
  | [] => ""
  | [x] => compact x
  | x :: xs => compact x ++ "," ++ compactItems xs

def compactFields : List (String × Json) → String
  | [] => ""
  | [(k, x)] => quoted k ++ ":" ++ compact x
  | (k, x) :: fields => quoted k ++ ":" ++ compact x ++ "," ++ compactFields fields

end

/-- The beginning of a line, `depth` steps in. -/
def lineStart (depth : Nat) : String := "\n" ++ String.ofList (List.replicate (2 * depth) ' ')

mutual

def prettyAt (depth : Nat) : Json → String
  | .arr [] => "[]"
  | .arr items => "[" ++ prettyItems (depth + 1) items ++ lineStart depth ++ "]"
  | .obj [] => "\x7b\x7d"
  | .obj fields => "\x7b" ++ prettyFields (depth + 1) fields ++ lineStart depth ++ "\x7d"
  | scalar => scalarText scalar

def prettyItems (depth : Nat) : List Json → String
  | [] => ""
  | [x] => lineStart depth ++ prettyAt depth x
  | x :: xs => lineStart depth ++ prettyAt depth x ++ "," ++ prettyItems depth xs

def prettyFields (depth : Nat) : List (String × Json) → String
  | [] => ""
  | [(k, x)] => lineStart depth ++ quoted k ++ ": " ++ prettyAt depth x
  | (k, x) :: fields =>
    lineStart depth ++ quoted k ++ ": " ++ prettyAt depth x ++ "," ++ prettyFields depth fields

end

def pretty (value : Json) : String := prettyAt 0 value

end Interception.Json
