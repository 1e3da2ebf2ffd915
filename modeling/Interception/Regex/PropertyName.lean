import Interception.Regex.Expr
import Interception.Unicode.Age
import Interception.Unicode.Break
import Interception.Unicode.Property
import Interception.Unicode.CaseRun
import Interception.Unicode.Script

/-!
# Properties by name

A property of characters is asked for by its name, loosely spelled: case, blanks, hyphens and low
lines do not count, and neither does a leading `is`. A name alone is a yes-or-no property, a
general category or a script; with a value, the name says which of these the value is, or asks for
an age or for the breaks around a character.
-/

namespace Interception.Regex

open Unicode

/-- A name in loose spelling. -/
def looseName (name : List Char) : String :=
  let (isPrefixed, rest) := match name with
    | i :: s :: rest =>
      if lowercaseAscii i = 'i' ∧ lowercaseAscii s = 's' then (true, rest) else (false, name)
    | name => (false, name)
  let plain := (rest.filter fun c => c.toNat < 128 && c != ' ' && c != '_' && c != '-').map
    lowercaseAscii
  -- This prefix alone belongs to the name.
  if isPrefixed ∧ plain = ['c'] then "isc" else String.ofList plain

def scriptNamed? (name : String) : Option CharSet := (Script.place? name).map Script.members

/-- The names that mean a category although they are also short for a property. -/
def categoryFirst : List String := ["cf", "sc", "lc"]

namespace PropertyQuery

/-- The characters with the property, or with the value of it, if there is such a property. -/
def toSet? : PropertyQuery → Option CharSet
  | .named name =>
    let name := looseName name
    let property := if categoryFirst.contains name then none else Property.find? name
    property <|> categoryNamed? name <|> scriptNamed? name
  | .valued name value _ =>
    let value := looseName value
    match looseName name with
    | "gc" | "generalcategory" => categoryNamed? value
    | "sc" | "script" => scriptNamed? value
    | "scx" | "scriptextensions" => (Script.place? value).map Script.users
    | "age" => Age.ofName? value
    | "gcb" | "graphemeclusterbreak" => graphemeBreak.ofName? value
    | "wb" | "wordbreak" => wordBreak.ofName? value
    | "sb" | "sentencebreak" => sentenceBreak.ofName? value
    | _ => none

/-- Whether the query is for the characters that lack the value. -/
def differs : PropertyQuery → Bool
  | .named _ => false
  | .valued _ _ differs => differs

end PropertyQuery

end Interception.Regex
