import Interception.Unicode.Table

/-!
# The general category of a character

Every character has exactly one general category. The table gives them as runs over the code
points from zero on; a category stands in it by its place in `Category.all`, and code points that
are no characters by the place behind the last category.
-/

namespace Interception.Unicode

/-- The general categories, in the order in which the table numbers them. -/
inductive Category where
  | uppercaseLetter
  | lowercaseLetter
  | titlecaseLetter
  | modifierLetter
  | otherLetter
  | nonspacingMark
  | spacingMark
  | enclosingMark
  | decimalNumber
  | letterNumber
  | otherNumber
  | connectorPunctuation
  | dashPunctuation
  | openPunctuation
  | closePunctuation
  | initialPunctuation
  | finalPunctuation
  | otherPunctuation
  | mathSymbol
  | currencySymbol
  | modifierSymbol
  | otherSymbol
  | spaceSeparator
  | lineSeparator
  | paragraphSeparator
  | control
  | format
  | privateUse
  | unassigned
  deriving DecidableEq, Repr

namespace Category

/-- Each category once, with the short and the long names that stand for it, in loose spelling. -/
def all : List (Category × List String) := [
  (.uppercaseLetter, ["lu", "uppercaseletter"]),
  (.lowercaseLetter, ["ll", "lowercaseletter"]),
  (.titlecaseLetter, ["lt", "titlecaseletter"]),
  (.modifierLetter, ["lm", "modifierletter"]),
  (.otherLetter, ["lo", "otherletter"]),
  (.nonspacingMark, ["mn", "nonspacingmark"]),
  (.spacingMark, ["mc", "spacingmark"]),
  (.enclosingMark, ["me", "enclosingmark"]),
  (.decimalNumber, ["nd", "decimalnumber", "digit"]),
  (.letterNumber, ["nl", "letternumber"]),
  (.otherNumber, ["no", "othernumber"]),
  (.connectorPunctuation, ["pc", "connectorpunctuation"]),
  (.dashPunctuation, ["pd", "dashpunctuation"]),
  (.openPunctuation, ["ps", "openpunctuation"]),
  (.closePunctuation, ["pe", "closepunctuation"]),
  (.initialPunctuation, ["pi", "initialpunctuation"]),
  (.finalPunctuation, ["pf", "finalpunctuation"]),
  (.otherPunctuation, ["po", "otherpunctuation"]),
  (.mathSymbol, ["sm", "mathsymbol"]),
  (.currencySymbol, ["sc", "currencysymbol"]),
  (.modifierSymbol, ["sk", "modifiersymbol"]),
  (.otherSymbol, ["so", "othersymbol"]),
  (.spaceSeparator, ["zs", "spaceseparator"]),
  (.lineSeparator, ["zl", "lineseparator"]),
  (.paragraphSeparator, ["zp", "paragraphseparator"]),
  (.control, ["cc", "control", "cntrl"]),
  (.format, ["cf", "format"]),
  (.privateUse, ["co", "privateuse"]),
  (.unassigned, ["cn", "unassigned"])]

/-- Names for several categories at once: a major class is named by its first letter. -/
def groups : List (List String × List Category) := [
  (["l", "letter"],
    [.uppercaseLetter, .lowercaseLetter, .titlecaseLetter, .modifierLetter, .otherLetter]),
  (["lc", "casedletter"],
    [.uppercaseLetter, .lowercaseLetter, .titlecaseLetter]),
  (["m", "mark", "combiningmark"],
    [.nonspacingMark, .spacingMark, .enclosingMark]),
  (["n", "number"],
    [.decimalNumber, .letterNumber, .otherNumber]),
  (["p", "punctuation", "punct"],
    [.connectorPunctuation, .dashPunctuation, .openPunctuation, .closePunctuation,
      .initialPunctuation, .finalPunctuation, .otherPunctuation]),
  (["s", "symbol"],
    [.mathSymbol, .currencySymbol, .modifierSymbol, .otherSymbol]),
  (["z", "separator"],
    [.spaceSeparator, .lineSeparator, .paragraphSeparator]),
  (["c", "other"],
    [.control, .format, .privateUse, .unassigned])]

/-- Runs of code points that share a category: how many, then the place in `all`. -/
def runs : Partition := .ofLines [
    "w p 1 m 3 h 1 j 3 h 1 d 1 e 1 h 1 i 1 h 1 c 2 h a 8 2 h 3 i 2 h q 0 1 d 1 h 1 e 1 k 1 b 1 k",
    "q 1 1 d 1 i 1 e 1 i x p 1 m 1 h 4 j 1 l 1 h 1 k 1 l 1 4 1 f 1 i 1 q 1 l 1 k 1 l 1 i 2 a 1 k",
    "1 1 2 h 1 k 1 a 1 4 1 g 3 a 1 h n 0 1 i 7 0 o 1 1 i 8 1 1 0 1 1 1 0 1 1 1 0 1 1 1 0 1 1 1 0",
    "1 1 1 0 1 1 1 0 1 1 1 0 1 1 1 0 1 1 1 0 1 1 1 0 1 1 1 0 1 1 1 0 1 1 1 0 1 1 1 0 1 1 1 0 1 1",
    "1 0 1 1 1 0 1 1 1 0 1 1 1 0 1 1 1 0 1 1 1 0 1 1 1 0 1 1 1 0 1 1 1 0 1 1 1 0 1 1 1 0 1 1 1 0",
    "2 1 1 0 1 1 1 0 1 1 1 0 1 1 1 0 1 1 1 0 1 1 1 0 1 1 1 0 1 1 1 0 2 1 1 0 1 1 1 0 1 1 1 0 1 1",
    "1 0 1 1 1 0 1 1 1 0 1 1 1 0 1 1 1 0 1 1 1 0 1 1 1 0 1 1 1 0 1 1 1 0 1 1 1 0 1 1 1 0 1 1 1 0",
    "1 1 1 0 1 1 1 0 1 1 1 0 1 1 1 0 1 1 1 0 1 1 1 0 1 1 1 0 1 1 1 0 1 1 2 0 1 1 1 0 1 1 1 0 3 1",
    "2 0 1 1 1 0 1 1 2 0 1 1 3 0 2 1 4 0 1 1 2 0 1 1 3 0 3 1 2 0 1 1 2 0 1 1 1 0 1 1 1 0 1 1 2 0",
    "1 1 1 0 2 1 1 0 1 1 2 0 1 1 3 0 1 1 1 0 1 1 2 0 2 1 1 4 1 0 3 1 4 4 1 0 1 2 1 1 1 0 1 2 1 1",
    "1 0 1 2 1 1 1 0 1 1 1 0 1 1 1 0 1 1 1 0 1 1 1 0 1 1 1 0 1 1 1 0 1 1 1 0 2 1 1 0 1 1 1 0 1 1",
    "1 0 1 1 1 0 1 1 1 0 1 1 1 0 1 1 1 0 1 1 1 0 1 1 1 0 2 1 1 0 1 2 1 1 1 0 1 1 3 0 1 1 1 0 1 1",
    "1 0 1 1 1 0 1 1 1 0 1 1 1 0 1 1 1 0 1 1 1 0 1 1 1 0 1 1 1 0 1 1 1 0 1 1 1 0 1 1 1 0 1 1 1 0",
    "1 1 1 0 1 1 1 0 1 1 1 0 1 1 1 0 1 1 1 0 1 1 1 0 1 1 1 0 1 1 1 0 1 1 1 0 1 1 1 0 1 1 1 0 1 1",
    "1 0 1 1 1 0 1 1 1 0 1 1 1 0 1 1 1 0 7 1 2 0 1 1 2 0 2 1 1 0 1 1 4 0 1 1 1 0 1 1 1 0 1 1 1 0",
    "1 1 1 0 1x 1 1 4 r 1 i 3 4 k c 3 e k 5 3 7 k 1 3 1 k 1 3 h k 34 5 1 0 1 1 1 0 1 1 1 3 1 k 1",
    "0 1 1 2 s 1 3 3 1 1 h 1 0 4 s 2 k 1 0 1 h 3 0 1 s 1 0 1 s 2 0 1 1 h 0 1 s 9 0 z 1 1 0 2 1 3",
    "0 3 1 1 0 1 1 1 0 1 1 1 0 1 1 1 0 1 1 1 0 1 1 1 0 1 1 1 0 1 1 1 0 1 1 1 0 1 1 1 0 1 1 1 0 1",
    "1 1 0 5 1 1 0 1 1 1 i 1 0 1 1 2 0 2 1 1f 0 1c 1 1 0 1 1 1 0 1 1 1 0 1 1 1 0 1 1 1 0 1 1 1 0",
    "1 1 1 0 1 1 1 0 1 1 1 0 1 1 1 0 1 1 1 0 1 1 1 0 1 1 1 0 1 1 1 0 1 1 1 0 1 1 1 0 1 1 1 0 1 1",
    "1 l 5 5 2 7 1 0 1 1 1 0 1 1 1 0 1 1 1 0 1 1 1 0 1 1 1 0 1 1 1 0 1 1 1 0 1 1 1 0 1 1 1 0 1 1",
    "1 0 1 1 1 0 1 1 1 0 1 1 1 0 1 1 1 0 1 1 1 0 1 1 1 0 1 1 1 0 1 1 1 0 1 1 1 0 1 1 1 0 1 1 1 0",
    "1 1 1 0 1 1 1 0 1 1 1 0 1 1 1 0 1 1 1 0 1 1 2 0 1 1 1 0 1 1 1 0 1 1 1 0 1 1 1 0 1 1 1 0 1 1",
    "1 0 2 1 1 0 1 1 1 0 1 1 1 0 1 1 1 0 1 1 1 0 1 1 1 0 1 1 1 0 1 1 1 0 1 1 1 0 1 1 1 0 1 1 1 0",
    "1 1 1 0 1 1 1 0 1 1 1 0 1 1 1 0 1 1 1 0 1 1 1 0 1 1 1 0 1 1 1 0 1 1 1 0 1 1 1 0 1 1 1 0 1 1",
    "1 0 1 1 1 0 1 1 1 0 1 1 1 0 1 1 1 0 1 1 1 0 1 1 1 0 1 1 1 0 1 1 1 0 1 1 1 0 1 1 1 0 1 1 1 0",
    "1 1 1 0 1 1 1 0 1 1 1 0 1 1 1 0 1 1 1 0 1 1 1 0 1 1 1 0 1 1 1 0 1 1 1 0 1 1 1 0 1 1 1 0 1 1",
    "1 0 1 1 1 0 1 1 1 0 1 1 1 s 12 0 2 s 1 3 6 h 15 1 1 h 1 c 2 s 2 l 1 j 1 s 19 5 1 c 1 5 1 h",
    "2 5 1 h 2 5 1 h 1 5 8 s r 4 4 s 4 4 2 h b s 6 q 3 i 2 h 1 j 2 h 2 l b 5 1 h 1 q 3 h w 4 1 3",
    "a 4 l 5 a 8 4 h 2 4 1 5 2r 4 1 h 1 4 7 5 1 q 1 l 6 5 2 3 2 5 1 l 4 5 2 4 a 8 3 4 2 l 1 4 e",
    "h 1 s 1 q 1 4 1 5 u 4 r 5 2 s 2h 4 b 5 1 4 e s a 8 x 4 9 5 2 3 1 l 3 h 1 3 2 s 1 5 2 j m 4",
    "4 5 1 3 9 5 1 3 3 5 1 3 5 5 2 s f h 1 s p 4 3 5 2 s 1 h 1 s b 4 5 s o 4 1 k 6 4 1 s 2 q 5 s",
    "9 5 15 4 1 3 o 5 1 q w 5 1 6 1i 4 1 5 1 6 1 5 1 4 3 6 8 5 4 6 1 5 2 6 1 4 7 5 a 4 2 5 2 h a",
    "8 1 h 1 3 f 4 1 5 2 6 1 s 8 4 2 s 2 4 2 s m 4 1 s 7 4 1 s 1 4 3 s 4 4 2 s 1 5 1 4 3 6 4 5 2",
    "s 2 6 2 s 2 6 1 5 1 4 8 s 1 6 4 s 2 4 1 s 3 4 2 5 2 s a 8 2 4 2 j 6 a 1 l 1 j 1 4 1 h 1 5 2",
    "s 2 5 1 6 1 s 6 4 4 s 2 4 2 s m 4 1 s 7 4 1 s 2 4 1 s 2 4 1 s 2 4 2 s 1 5 1 s 3 6 2 5 4 s 2",
    "5 2 s 3 5 3 s 1 5 7 s 4 4 1 s 1 4 7 s a 8 2 5 3 4 1 5 1 h a s 2 5 1 6 1 s 9 4 1 s 3 4 1 s m",
    "4 1 s 7 4 1 s 2 4 1 s 5 4 2 s 1 5 1 4 3 6 5 5 1 s 2 5 1 6 1 s 2 6 1 5 2 s 1 4 f s 2 4 2 5 2",
    "s a 8 1 h 1 j 7 s 1 4 6 5 1 s 1 5 2 6 1 s 8 4 2 s 2 4 2 s m 4 1 s 7 4 1 s 2 4 1 s 5 4 2 s 1",
    "5 1 4 1 6 1 5 1 6 4 5 2 s 2 6 2 s 2 6 1 5 7 s 2 5 1 6 4 s 2 4 1 s 3 4 2 5 2 s a 8 1 l 1 4 6",
    "a a s 1 5 1 4 1 s 6 4 3 s 3 4 1 s 4 4 3 s 2 4 1 s 1 4 1 s 2 4 3 s 2 4 3 s 3 4 3 s c 4 4 s 2",
    "6 1 5 2 6 3 s 3 6 1 s 3 6 1 5 2 s 1 4 6 s 1 6 e s a 8 3 a 6 l 1 j 1 l 5 s 1 5 3 6 1 5 8 4 1",
    "s 3 4 1 s n 4 1 s g 4 2 s 1 5 1 4 3 5 4 6 1 s 3 5 1 s 4 5 7 s 2 5 1 s 3 4 2 s 1 4 2 s 2 4 2",
    "5 2 s a 8 7 s 1 h 7 a 1 l 1 4 1 5 2 6 1 h 8 4 1 s 3 4 1 s n 4 1 s a 4 1 s 5 4 2 s 1 5 1 4 1",
    "6 1 5 5 6 1 s 1 5 2 6 1 s 2 6 2 5 7 s 2 6 6 s 2 4 1 s 2 4 2 5 2 s a 8 1 s 2 4 1 6 c s 2 5 2",
    "6 9 4 1 s 3 4 1 s 15 4 2 5 1 4 3 6 4 5 1 s 3 6 1 s 3 6 1 5 1 4 1 l 4 s 3 4 1 6 7 a 3 4 2 5",
    "2 s a 8 9 a 1 l 6 4 1 s 1 5 2 6 1 s i 4 3 s o 4 1 s 9 4 1 s 1 4 2 s 7 4 3 s 1 5 4 s 3 6 3 5",
    "1 s 1 5 1 s 8 6 6 s a 8 2 s 2 6 1 h c s 1c 4 1 5 2 4 7 5 4 s 1 j 6 4 1 3 8 5 1 h a 8 2 h 11",
    "s 2 4 1 s 1 4 1 s 5 4 1 s o 4 1 s 1 4 1 s a 4 1 5 2 4 9 5 1 4 2 s 5 4 1 s 1 3 1 s 7 5 1 s a",
    "8 2 s 4 4 w s 1 4 3 l f h 1 l 1 h 3 l 2 5 6 l a 8 a a 1 l 1 5 1 l 1 5 1 l 1 5 1 d 1 e 1 d 1",
    "e 2 6 8 4 1 s 10 4 4 s e 5 1 6 5 5 1 h 2 5 5 4 b 5 1 s 10 5 1 s 8 l 1 5 6 l 1 s 2 l 5 h 4 l",
    "2 h 11 s 17 4 2 6 4 5 1 6 6 5 1 6 2 5 2 6 2 5 1 4 a 8 6 h 6 4 2 6 2 5 4 4 3 5 1 4 3 6 2 4 7",
    "6 3 4 4 5 d 4 1 5 2 6 2 5 6 6 1 5 1 4 1 6 a 8 3 6 1 5 2 l 12 0 1 s 1 0 5 s 1 0 2 s 17 1 1 h",
    "1 3 3 1 95 4 1 s 4 4 2 s 7 4 1 s 1 4 1 s 4 4 2 s 15 4 1 s 4 4 2 s x 4 1 s 4 4 2 s 7 4 1 s 1",
    "4 1 s 4 4 2 s f 4 1 s 1l 4 1 s 4 4 2 s 1v 4 2 s 3 5 9 h k a 3 s g 4 a l 6 s 2e 0 2 s 6 1 2",
    "s 1 c h8 4 1 l 1 h h 4 1 m q 4 1 d 1 e 3 s 23 4 3 h 3 9 8 4 7 s i 4 3 5 1 6 9 s j 4 2 5 1 6",
    "2 h 9 s i 4 2 5 c s d 4 1 s 3 4 1 s 2 5 c s 1g 4 2 5 1 6 7 5 8 6 1 5 2 6 b 5 3 h 1 3 3 h 1",
    "j 1 4 1 5 2 s a 8 6 s a a 6 s 6 h 1 c 4 h 3 5 1 q 1 5 a 8 6 s z 4 1 3 1h 4 7 s 5 4 2 5 y 4",
    "1 5 1 4 5 s 1y 4 a s v 4 1 s 3 5 4 6 2 5 3 6 4 s 2 6 1 5 6 6 3 5 4 s 1 l 3 s 2 h a 8 u 4 2",
    "s 5 4 b s 18 4 4 s q 4 6 s a 8 1 a 3 s y l n 4 2 5 2 6 1 5 2 s 2 h 1h 4 1 6 1 5 1 6 7 5 1 s",
    "1 5 1 6 1 5 2 6 8 5 6 6 a 5 2 s 1 5 a 8 6 s a 8 6 s 7 h 1 3 6 h 2 s e 5 1 7 g 5 1d s 4 5 1",
    "6 1b 4 1 5 1 6 5 5 1 6 1 5 5 6 1 5 2 6 8 4 1 s 2 h a 8 7 h a l 9 5 9 l 3 h 2 5 1 6 u 4 1 6",
    "4 5 2 6 2 5 1 6 3 5 2 4 a 8 18 4 1 5 1 6 2 5 3 6 1 5 1 6 3 5 2 6 8 s 4 h 10 4 8 6 8 5 2 6 2",
    "5 3 s 5 h a 8 3 s 3 4 a 8 u 4 6 3 2 h 9 1 1 0 1 1 5 s 17 0 2 s 3 0 8 h 8 s 3 5 1 h d 5 1 6",
    "7 5 4 4 1 5 6 4 1 5 2 4 1 6 2 5 1 4 5 s 18 1 1r 3 d 1 1 3 y 1 11 3 1s 5 1 0 1 1 1 0 1 1 1 0",
    "1 1 1 0 1 1 1 0 1 1 1 0 1 1 1 0 1 1 1 0 1 1 1 0 1 1 1 0 1 1 1 0 1 1 1 0 1 1 1 0 1 1 1 0 1 1",
    "1 0 1 1 1 0 1 1 1 0 1 1 1 0 1 1 1 0 1 1 1 0 1 1 1 0 1 1 1 0 1 1 1 0 1 1 1 0 1 1 1 0 1 1 1 0",
    "1 1 1 0 1 1 1 0 1 1 1 0 1 1 1 0 1 1 1 0 1 1 1 0 1 1 1 0 1 1 1 0 1 1 1 0 1 1 1 0 1 1 1 0 1 1",
    "1 0 1 1 1 0 1 1 1 0 1 1 1 0 1 1 1 0 1 1 1 0 1 1 1 0 1 1 1 0 1 1 1 0 1 1 1 0 1 1 1 0 1 1 1 0",
    "1 1 1 0 1 1 1 0 1 1 1 0 1 1 1 0 1 1 1 0 1 1 1 0 1 1 1 0 1 1 1 0 1 1 1 0 1 1 1 0 1 1 1 0 1 1",
    "1 0 1 1 1 0 1 1 1 0 1 1 1 0 1 1 1 0 1 1 1 0 1 1 1 0 1 1 1 0 1 1 1 0 1 1 1 0 1 1 1 0 1 1 1 0",
    "1 1 1 0 1 1 1 0 1 1 1 0 9 1 1 0 1 1 1 0 1 1 1 0 1 1 1 0 1 1 1 0 1 1 1 0 1 1 1 0 1 1 1 0 1 1",
    "1 0 1 1 1 0 1 1 1 0 1 1 1 0 1 1 1 0 1 1 1 0 1 1 1 0 1 1 1 0 1 1 1 0 1 1 1 0 1 1 1 0 1 1 1 0",
    "1 1 1 0 1 1 1 0 1 1 1 0 1 1 1 0 1 1 1 0 1 1 1 0 1 1 1 0 1 1 1 0 1 1 1 0 1 1 1 0 1 1 1 0 1 1",
    "1 0 1 1 1 0 1 1 1 0 1 1 1 0 1 1 1 0 1 1 1 0 1 1 1 0 1 1 1 0 1 1 1 0 1 1 1 0 1 1 1 0 1 1 1 0",
    "1 1 1 0 1 1 1 0 1 1 1 0 1 1 1 0 1 1 1 0 1 1 1 0 9 1 8 0 6 1 2 s 6 0 2 s 8 1 8 0 8 1 8 0 6 1",
    "2 s 6 0 2 s 8 1 1 s 1 0 1 s 1 0 1 s 1 0 1 s 1 0 8 1 8 0 e 1 2 s 8 1 8 2 8 1 8 2 8 1 8 2 5 1",
    "1 s 2 1 4 0 1 2 1 k 1 1 3 k 3 1 1 s 2 1 4 0 1 2 3 k 4 1 2 s 2 1 4 0 1 s 3 k 8 1 5 0 3 k 2 s",
    "3 1 1 s 2 1 4 0 1 2 2 k 1 s b m 5 q 6 c 2 h 1 f 1 g 1 d 2 f 1 g 1 d 1 f 8 h 1 n 1 o 5 q 1 m",
    "9 h 1 f 1 g 4 h 2 b 3 h 1 i 1 d 1 e b h 1 i 1 h 1 b a h 1 m 5 q 1 s a q 1 a 1 3 2 s 6 a 3 i",
    "1 d 1 e 1 3 a a 3 i 1 d 1 e 1 s d 3 3 s x j f s d 5 4 7 1 5 3 7 c 5 f s 2 l 1 0 4 l 1 0 2 l",
    "1 1 3 0 2 1 3 0 1 1 1 l 1 0 2 l 1 i 5 0 6 l 1 0 1 l 1 0 1 l 1 0 1 l 4 0 1 l 1 1 4 0 1 1 4 4",
    "1 1 2 l 2 1 2 0 5 i 1 0 4 1 1 l 1 i 2 l 1 1 1 l g a z 9 1 0 1 1 4 9 1 a 2 l 4 s 5 i 5 l 2 i",
    "4 l 1 i 2 l 1 i 2 l 1 i 7 l 1 i v l 2 i 2 l 1 i 1 l 1 i v l 7g i 8 l 1 d 1 e 1 d 1 e k l 2",
    "i 7 l 1 d 1 e 29 l 1 i u l p i 14 l 6 i 20 l m s b l l s 1o a 26 l m a 53 l 1 i 9 l 1 i 1i",
    "l 8 i 33 l 1 i 6w l 1 d 1 e 1 d 1 e 1 d 1 e 1 d 1 e 1 d 1 e 1 d 1 e 1 d 1 e u a 18 l 5 i 1",
    "d 1 e v i 1 d 1 e 1 d 1 e 1 d 1 e 1 d 1 e 1 d 1 e g i 74 l 3n i 1 d 1 e 1 d 1 e 1 d 1 e 1 d",
    "1 e 1 d 1 e 1 d 1 e 1 d 1 e 1 d 1 e 1 d 1 e 1 d 1 e 1 d 1 e 1r i 1 d 1 e 1 d 1 e w i 1 d 1",
    "e 76 i 1c l l i 2 l 6 i 13 l 2 s w l 1 s 2x l 1c 0 1c 1 1 0 1 1 3 0 2 1 1 0 1 1 1 0 1 1 1 0",
    "1 1 4 0 1 1 1 0 2 1 1 0 6 1 2 3 3 0 1 1 1 0 1 1 1 0 1 1 1 0 1 1 1 0 1 1 1 0 1 1 1 0 1 1 1 0",
    "1 1 1 0 1 1 1 0 1 1 1 0 1 1 1 0 1 1 1 0 1 1 1 0 1 1 1 0 1 1 1 0 1 1 1 0 1 1 1 0 1 1 1 0 1 1",
    "1 0 1 1 1 0 1 1 1 0 1 1 1 0 1 1 1 0 1 1 1 0 1 1 1 0 1 1 1 0 1 1 1 0 1 1 1 0 1 1 1 0 1 1 1 0",
    "1 1 1 0 1 1 1 0 1 1 1 0 1 1 1 0 1 1 1 0 1 1 1 0 1 1 1 0 1 1 1 0 1 1 1 0 1 1 1 0 1 1 1 0 1 1",
    "1 0 1 1 1 0 1 1 1 0 1 1 1 0 1 1 1 0 1 1 1 0 1 1 1 0 1 1 1 0 2 1 6 l 1 0 1 1 1 0 1 1 3 5 1 0",
    "1 1 5 s 4 h 1 a 2 h 12 1 1 s 1 1 5 s 1 1 2 s 1k 4 7 s 1 3 1 h e s 1 5 n 4 9 s 7 4 1 s 7 4 1",
    "s 7 4 1 s 7 4 1 s 7 4 1 s 7 4 1 s 7 4 1 s 7 4 1 s w 5 2 h 1 f 1 g 1 f 1 g 3 h 1 f 1 g 1 h 1",
    "f 1 g 9 h 1 c 2 h 1 c 1 h 1 f 1 g 2 h 1 f 1 g 1 d 1 e 1 d 1 e 1 d 1 e 1 d 1 e 5 h 1 3 a h 2",
    "c 4 h 1 c 1 h 1 d d h 2 l 3 h 1 d 1 e 1 d 1 e 1 d 1 e 1 d 1 e 1 c y s q l 1 s 2h l c s 5y l",
    "q s g l 1 m 3 h 1 l 1 3 1 4 1 9 1 d 1 e 1 d 1 e 1 d 1 e 1 d 1 e 1 d 1 e 2 l 1 d 1 e 1 d 1 e",
    "1 d 1 e 1 d 1 e 1 c 1 d 2 e 1 l 9 9 4 5 2 6 1 c 5 3 2 l 3 9 1 3 1 4 1 h 2 l 1 s 2e 4 2 s 2",
    "5 2 k 2 3 1 4 1 c 2i 4 1 h 3 3 1 4 5 s 17 4 1 s 2m 4 1 s 2 l 4 a a l w 4 12 l 9 s 1 l g 4 v",
    "l 1 s a a u l 8 a 1 l f a w l a a 13 l f a 8w l 534 4 1s l g7p 4 1 3 vr 4 3 s 1j l 9 s 14 4",
    "6 3 2 h 7g 4 1 3 3 h g 4 a 8 2 4 k s 1 0 1 1 1 0 1 1 1 0 1 1 1 0 1 1 1 0 1 1 1 0 1 1 1 0 1",
    "1 1 0 1 1 1 0 1 1 1 0 1 1 1 0 1 1 1 0 1 1 1 0 1 1 1 0 1 1 1 0 1 1 1 0 1 1 1 0 1 1 1 0 1 1 1",
    "0 1 1 1 0 1 1 1 0 1 1 1 0 1 1 1 0 1 1 1 4 1 5 3 7 1 h a 5 1 h 1 3 1 0 1 1 1 0 1 1 1 0 1 1 1",
    "0 1 1 1 0 1 1 1 0 1 1 1 0 1 1 1 0 1 1 1 0 1 1 1 0 1 1 1 0 1 1 1 0 1 1 1 0 1 1 1 0 1 1 2 3 2",
    "5 1y 4 a 9 2 5 6 h 8 s n k 9 3 2 k 1 0 1 1 1 0 1 1 1 0 1 1 1 0 1 1 1 0 1 1 1 0 1 1 1 0 3 1",
    "1 0 1 1 1 0 1 1 1 0 1 1 1 0 1 1 1 0 1 1 1 0 1 1 1 0 1 1 1 0 1 1 1 0 1 1 1 0 1 1 1 0 1 1 1 0",
    "1 1 1 0 1 1 1 0 1 1 1 0 1 1 1 0 1 1 1 0 1 1 1 0 1 1 1 0 1 1 1 0 1 1 1 0 1 1 1 0 1 1 1 0 1 1",
    "1 0 1 1 1 0 1 1 1 0 1 1 1 0 1 1 1 0 1 1 1 0 1 1 1 0 1 1 1 0 1 1 1 3 8 1 1 0 1 1 1 0 1 1 2 0",
    "1 1 1 0 1 1 1 0 1 1 1 0 1 1 1 0 1 1 1 3 2 k 1 0 1 1 1 0 1 1 1 4 1 0 1 1 1 0 3 1 1 0 1 1 1 0",
    "1 1 1 0 1 1 1 0 1 1 1 0 1 1 1 0 1 1 1 0 1 1 1 0 1 1 1 0 1 1 1 0 1 1 5 0 1 1 5 0 1 1 1 0 1 1",
    "1 0 1 1 1 0 1 1 1 0 1 1 1 0 1 1 1 0 1 1 1 0 1 1 4 0 1 1 1 0 1 1 2 0 1 1 2 s 1 0 1 1 1 s 1 1",
    "1 s 1 1 1 0 1 1 1 0 1 1 1 0 1 1 1 0 l s 3 3 1 0 1 1 1 4 2 3 1 1 7 4 1 5 3 4 1 5 4 4 1 5 n 4",
    "2 6 2 5 1 6 4 l 1 5 3 s 6 a 2 l 1 j 1 l 6 s 1g 4 4 h 8 s 2 6 1e 4 g 6 2 5 8 s 2 h a 8 6 s i",
    "5 6 4 3 h 1 4 1 h 2 4 1 5 a 8 s 4 8 5 2 h n 4 b 5 2 6 b s 1 h t 4 3 s 3 5 1 6 1b 4 1 5 2 6",
    "4 5 2 6 2 5 3 6 d h 1 s 1 3 a 8 4 s 2 h 5 4 1 5 1 3 9 4 a 8 5 4 1 s 15 4 6 5 2 6 2 5 2 6 2",
    "5 9 s 3 4 1 5 8 4 1 5 1 6 2 s a 8 2 s 4 h g 4 1 3 6 4 3 l 1 4 1 6 1 5 1 6 1e 4 1 5 1 4 3 5",
    "2 4 2 5 5 4 2 5 1 4 1 5 1 4 o s 2 4 1 3 2 h b 4 1 6 2 5 2 6 2 h 1 4 2 3 1 6 1 5 a s 6 4 2 s",
    "6 4 2 s 6 4 9 s 7 4 1 s 7 4 1 s 17 1 1 k 4 3 9 1 1 3 2 k 4 s 28 1 z 4 2 6 1 5 2 6 1 5 2 6 1",
    "h 1 6 1 5 2 s a 8 6 s 8mc 4 c s n 4 4 s 1d 4 4 s 1kw t 4xs r a6 4 2 s 2y 4 12 s 7 1 c s 5 1",
    "5 s 1 4 1 5 a 4 1 i d 4 1 s 5 4 1 s 1 4 1 s 2 4 1 s 2 4 1 s 30 4 h k g s a3 4 1 e 1 d g l",
    "1s 4 2 s 1i 4 7 s 1 l w s c 4 1 j 3 l g 5 7 h 1 d 1 e 1 h 6 s g 5 1 h 2 c 2 b 1 d 1 e 1 d 1",
    "e 1 d 1 e 1 d 1 e 1 d 1 e 1 d 1 e 1 d 1 e 1 d 1 e 2 h 1 d 1 e 4 h 3 b 3 h 1 s 4 h 1 c 1 d 1",
    "e 1 d 1 e 1 d 1 e 3 h 1 i 1 c 3 i 1 s 1 h 1 j 2 h 4 s 5 4 1 s 3r 4 2 s 1 q 1 s 3 h 1 j 3 h",
    "1 d 1 e 1 h 1 i 1 h 1 c 2 h a 8 2 h 3 i 2 h q 0 1 d 1 h 1 e 1 k 1 b 1 k q 1 1 d 1 i 1 e 1 i",
    "1 d 1 e 1 h 1 d 1 e 2 h a 4 1 3 19 4 2 3 v 4 3 s 6 4 2 s 6 4 2 s 6 4 2 s 3 4 3 s 2 j 1 i 1",
    "k 1 l 2 j 1 s 1 l 4 i 2 l a s 3 q 2 l 2 s c 4 1 s q 4 1 s j 4 1 s 2 4 1 s f 4 2 s e 4 y s",
    "3f 4 5 s 3 h 4 s 19 a 3 s 9 l 1h 9 4 a h l 2 a 3 l 1 s d l 3 s 1 l 1b s 19 l 1 5 3m s t 4 3",
    "s 1d 4 f s 1 5 r a 4 s w 4 4 a 9 s k 4 1 9 8 4 1 9 5 s 12 4 5 5 5 s u 4 1 s 1 h 10 4 4 s 8",
    "4 1 h 5 9 16 s 14 0 14 1 26 4 2 s a 8 6 s 10 0 4 s 10 1 4 s 14 4 8 s 1g 4 b s 1 h b 0 1 s f",
    "0 1 s 7 0 1 s 2 0 1 s b 1 1 s f 1 1 s 7 1 1 s 2 1 3 s 1g 4 c s 8n 4 9 s m 4 a s 8 4 o s 6 3",
    "1 s 16 3 1 s 9 3 1x s 6 4 2 s 1 4 1 s 18 4 1 s 2 4 3 s 1 4 2 s n 4 1 s 1 h 8 a n 4 2 l 7 a",
    "v 4 8 s 9 a 1c s j 4 1 s 2 4 5 s 5 a m 4 6 a 3 s 1 h q 4 5 s 1 h 1s s 1k 4 4 s 2 a 2 4 g a",
    "2 s 1a a 1 4 3 5 1 s 2 5 5 s 4 5 4 4 1 s 3 4 1 s t 4 2 s 3 5 4 s 1 5 9 a 7 s 9 h 7 s t 4 2",
    "a 1 h t 4 3 a w s 8 4 1 l s 4 2 5 4 s 5 a 7 h 9 s 1i 4 3 s 7 h m 4 2 s 8 a j 4 5 s 8 a i 4",
    "7 s 4 h c s 7 a 28 s 21 4 1j s 1f 0 d s 1f 1 7 s 6 a 10 4 4 5 8 s a 8 6 s a 8 4 4 1 3 1 4 m",
    "0 3 s 5 5 1 c 1 3 m 1 8 s 2 i 5s s v a 1 s 16 4 1 s 2 5 1 c 2 s 2 4 g s 3 4 1j s 4 5 t 4 a",
    "a 1 4 8 s m 4 b 5 4 a 5 h m s i 4 4 5 4 h 12 s l 4 7 a k s n 4 9 s 1 6 1 5 1 6 1h 4 f 5 7 h",
    "4 s k a a 8 1 5 2 4 2 5 1 4 9 s 3 5 1 6 19 4 3 6 4 5 2 6 2 5 2 h 1 q 4 h 1 5 a s 1 q 2 s p",
    "4 7 s a 8 6 s 3 5 10 4 5 5 1 6 8 5 1 s a 8 4 h 1 4 2 6 1 4 8 s z 4 1 5 2 h 1 4 9 s 2 5 1 6",
    "1c 4 3 6 9 5 2 6 4 4 4 h 4 5 1 h 1 6 1 5 a 8 1 4 1 h 1 4 3 h 1 s k a b s i 4 1 s p 4 3 6 3",
    "5 2 6 1 5 1 6 2 5 6 h 1 5 2 4 1 5 1q s 7 4 1 s 1 4 1 s 4 4 1 s f 4 1 s a 4 1 h 6 s 1b 4 1 5",
    "3 6 8 5 5 s a 8 6 s 2 5 2 6 1 s 8 4 2 s 2 4 2 s m 4 1 s 7 4 1 s 2 4 1 s 5 4 1 s 2 5 1 4 2 6",
    "1 5 4 6 2 s 2 6 2 s 3 6 2 s 1 4 6 s 1 6 5 s 5 4 2 6 2 s 7 5 3 s 5 5 b s a 4 1 s 1 4 2 s 1 4",
    "1 s 12 4 1 s 1 4 3 6 6 5 1 s 1 6 2 s 1 6 1 s 4 6 1 s 2 6 1 5 1 6 1 5 1 4 1 5 1 4 2 h 1 s 2",
    "h 8 s 2 5 t s 1h 4 3 6 8 5 2 6 3 5 1 6 1 5 4 4 5 h a 8 2 h 1 s 1 h 1 5 3 4 u s 1c 4 3 6 6 5",
    "1 6 1 5 4 6 2 5 1 6 2 5 2 4 1 h 1 4 8 s a 8 4m s 1b 4 3 6 4 5 2 s 4 6 2 5 1 6 2 5 n h 4 4 2",
    "5 y s 1c 4 3 6 8 5 2 6 1 5 1 6 2 5 3 h 1 4 b s a 8 6 s d h j s 17 4 1 5 1 6 1 5 2 6 6 5 1 6",
    "1 5 1 4 1 h 6 s a 8 6 s k 8 s s r 4 2 s 1 5 1 6 1 5 2 6 4 5 1 6 5 5 4 s a 8 2 a 3 h 1 l 7 4",
    "55 s 18 4 3 6 9 5 1 6 2 5 1 h 2s s w 0 w 1 a 8 9 a c s 8 4 2 s 1 4 2 s 8 4 1 s 2 4 1 s o 4",
    "6 6 1 s 2 6 2 s 2 5 1 6 1 5 1 4 1 6 1 4 1 6 1 5 3 h 9 s a 8 1y s 8 4 2 s 13 4 3 6 4 5 2 s 2",
    "5 4 6 1 5 1 4 1 h 1 4 1 6 r s 1 4 a 5 14 4 6 5 1 6 1 4 4 5 8 h 1 5 8 s 1 4 6 5 2 6 3 5 1a 4",
    "d 5 1 6 2 5 3 h 1 4 5 h d s 21 4 7 s a h 52 s x 4 1 h e s a 8 6 s 9 4 1 s 11 4 1 6 7 5 1 s",
    "6 5 1 6 1 5 1 4 5 h a s a 8 j a 3 s 2 h u 4 2 s m 5 1 s 1 6 7 5 1 6 2 5 1 6 2 5 21 s 7 4 1",
    "s 2 4 1 s 12 4 6 5 3 s 1 5 1 s 2 5 1 s 7 5 1 4 1 5 8 s a 8 6 s 6 4 1 s 2 4 1 s w 4 5 6 1 s",
    "2 5 1 s 2 6 1 5 1 6 1 5 1 4 7 s a 8 8m s j 4 2 5 2 6 2 h 7 s 2 5 1 4 1 6 d 4 1 s y 4 2 6 5",
    "5 3 s 2 6 1 5 1 6 1 5 d h a 8 1 5 2d s 1 4 f s l a 8 l 4 j h l d s 1 h pm 4 2u s 33 9 1 s 5",
    "h b s 5g 4 218 s 2p 4 2 h d s ts 4 g q 1 5 6 4 f 5 a s 32z 4 5 s g7 4 5a1 s u 4 c 5 3 6 3 5",
    "a 8 1c6 s ft 4 7 s v 4 1 s a 8 4 s 2 h 27 4 1 s a 8 6 s u 4 2 s 5 5 1 h a s 1c 4 7 5 5 h 4",
    "l 4 3 1 h 1 l a s a 8 1 s 7 a 1 s l 4 5 s j 4 c0 s 3 3 14 4 2 3 3 h a 8 5i s w 0 w 1 n a 4",
    "h 2t s 23 4 4 s 1 5 1 4 1j 6 7 s 4 5 d 3 1s s 2 3 1 h 1 3 1 5 b s 2 6 e s 4qg 4 8 s ye 4 15",
    "s a 4 6w7 s 4 3 1 s 7 3 1 s 2 3 1 s 83 4 f s 1 4 t s 3 4 2 s 1 4 e s 4 4 8 s b0 4 1s4 s 2z",
    "4 5 s d 4 3 s 9 4 7 s a 4 2 s 1 l 2 5 1 h 4 q 318 s 6o l a 8 6 s c4 l 24 s 1a 5 2 s n 5 9 s",
    "38 l 1o s 6u l a s 13 l 2 s 1o l 2 6 3 5 3 l 6 6 8 q 8 5 2 l 7 5 u l 4 5 1p l l s 1u l 3 5",
    "1 l 3e s k a c s k a c s 2f l 9 s p a 3r s q 0 q 1 q 0 7 1 1 s i 1 q 0 q 1 1 0 1 s 2 0 2 s",
    "1 0 2 s 2 0 2 s 4 0 1 s 8 0 4 1 1 s 1 1 1 s 7 1 1 s b 1 q 0 q 1 2 0 1 s 4 0 2 s 8 0 1 s 7 0",
    "1 s q 1 2 0 1 s 4 0 1 s 5 0 1 s 1 0 3 s 7 0 1 s q 1 q 0 q 1 q 0 q 1 q 0 q 1 q 0 q 1 q 0 q 1",
    "q 0 s 1 2 s p 0 1 i p 1 1 i 6 1 p 0 1 i p 1 1 i 6 1 p 0 1 i p 1 1 i 6 1 p 0 1 i p 1 1 i 6 1",
    "p 0 1 i p 1 1 i 6 1 1 0 1 1 2 s 1e 8 e8 l 1j 5 4 l 1e 5 8 l 1 5 e l 1 5 2 l 5 h f s 5 5 1 s",
    "f 5 uo s a 1 1 4 k 1 6 s 6 1 5x s 7 5 1 s h 5 2 s 7 5 1 s 2 5 1 s 5 5 5 s 1q 3 x s 1 5 34 s",
    "19 4 3 s 7 5 7 3 2 s a 8 4 s 1 4 1 l 8w s u 4 1 5 h s 18 4 4 5 a 8 5 s 1 j cw s r 4 1 3 4 5",
    "a 8 5y s u 4 2 5 1 4 a 8 4 s 1 h dc s 7 4 1 s 4 4 1 s 2 4 1 s f 4 1 s 5h 4 2 s 9 a 7 5 15 s",
    "y 0 y 1 7 5 1 3 4 s a 8 4 s 2 h lt s 1n a 1 l 3 a 1 j 4 a 24 s 19 a 1 l f a 5e s 4 4 1 s r",
    "4 1 s 2 4 1 s 1 4 2 s 1 4 1 s a 4 1 s 4 4 1 s 1 4 1 s 1 4 6 s 1 4 4 s 1 4 1 s 1 4 1 s 1 4 1",
    "s 3 4 1 s 2 4 1 s 1 4 2 s 1 4 1 s 1 4 1 s 1 4 1 s 1 4 1 s 1 4 1 s 2 4 1 s 1 4 2 s 4 4 1 s 7",
    "4 1 s 4 4 1 s 4 4 1 s 1 4 1 s a 4 1 s h 4 5 s 3 4 1 s 5 4 1 s h 4 1g s 2 i 7i s 18 l 4 s 2s",
    "l c s f l 2 s f l 1 s f l 1 s 11 l a s d a 4h l 1k s t l d s 18 l 4 s 9 l 7 s 2 l e s 6 l",
    "4a s 6z l 5 k k8 l 4 s h l 3 s d l 3 s 3b l 4 s 2n l 6 s c l 4 s 1 l f s c l 4 s 1k l 8 s a",
    "l 6 s 14 l 8 s u l 2 s c l 4 s 2 l 1q s 9g l c s e l 2 s d l 3 s a l 5 s 1k l 7 s f l 2 s b",
    "l 6 s 9 l 7 s 43 l 1 s 2k l a 8 sm s wyo 4 w s 37e 4 6 s 66 4 2 s 4g2 4 e s 5rl 4 f s ha 4",
    "1wi s f2 4 15u s 3t7 4 5 s 38g 4 f975 s 1 q u s 2o q 3k s 6o 5 1e6o s 1eke r 2 s 1eke r 2 s"]

end Category

/-- The characters of the given general categories. -/
def ofCategories (members : List Category) : CharSet :=
  Category.runs.select fun place =>
    match Category.all[place]? with
    | some (category, _) => members.contains category
    | none => false

/-- The characters of one general category. -/
def ofCategory (category : Category) : CharSet := ofCategories [category]

/-- The characters of a general category, or of a group of them, by its name in loose spelling. -/
def categoryNamed? (name : String) : Option CharSet :=
  match name with
  | "any" => some .all
  | "assigned" => some (ofCategory .unassigned).compl
  | "ascii" => some (.range '\x00' '\x7f')
  | name =>
    match Category.all.find? fun entry => entry.2.contains name with
    | some (category, _) => some (ofCategory category)
    | none =>
      (Category.groups.find? fun entry => entry.1.contains name).map fun entry =>
        ofCategories entry.2

end Interception.Unicode
