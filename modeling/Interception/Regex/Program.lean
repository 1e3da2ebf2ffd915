import Interception.Regex.Meaning
import Interception.Regex.Search

/-!
# Compiled regular expressions

A program is a regular expression that is ready to search texts: its automaton is built once, with
the flags of the expression in it. What a group took in a match is asked for by the name of the
group, which leads to the number that its marks have.
-/

namespace Interception.Regex

/-- An expression with its automaton. -/
structure Program where
  expression : Regex
  automaton : Automaton
  automaton_eq : automaton = expression.automaton

namespace Program

def ofRegex (r : Regex) : Program := ⟨r, r.automaton, rfl⟩

/-- The program for the expression that a text writes, unless it writes none or one that is too
large. -/
def compile? (ignoreCase : Bool) (source : List Char) : Option Program :=
  (Regex.compile? ignoreCase source).map ofRegex

/-- The marks of the preferred match, if there is a match in the text. -/
def search? (p : Program) (text : List Char) : Option (List Mark) := p.automaton.search? text

/-- What the group with a name took, if there is one and it took part in the match. -/
def named? (p : Program) (marks : List Mark) (name : String) : Option (List Char) :=
  (groupNamed? name p.expression).bind (captured? marks)

end Program

end Interception.Regex
