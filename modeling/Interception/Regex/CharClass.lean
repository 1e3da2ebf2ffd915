import Interception.Unicode.Property

/-!
# Classes of characters

The sets of characters that expressions have signs of their own for: words, digits, blanks, and
everything in a line.
-/

namespace Interception.CharSet

open Unicode

/-- The marks, in the sense of the general category. -/
def marks : List Category := [.nonspacingMark, .spacingMark, .enclosingMark]

/-- The characters of words: letters, marks, decimal digits, connecting punctuation, joiners. -/
def word : CharSet :=
  unions [Property.alphabetic, ofCategories (marks ++ [.decimalNumber, .connectorPunctuation]),
    Property.joinControl]

def digit : CharSet := ofCategory .decimalNumber

def space : CharSet := Property.whiteSpace

/-- The digits, letters and the low line of ASCII. -/
def asciiWord : CharSet := ranges [('0', '9'), ('A', 'Z'), ('_', '_'), ('a', 'z')]

/-- Every character but a line feed. -/
def notLineFeed : CharSet := compl (only '\n')

/-- Whether `c` is a character of a word, where `ascii` says that only ASCII has letters. -/
def isWord (ascii : Bool) (c : Char) : Bool :=
  if c.toNat < 128 then c.isAlphanum || c == '_' else !ascii && word.contains c

end Interception.CharSet
