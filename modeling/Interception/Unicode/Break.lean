import Interception.Unicode.Table

/-!
# Where text may be broken

Three properties tell what a character does to the division of a text into visible units, words
and sentences. Each has a few values, which have names; most characters have the value for all
others, which is behind the last and is not asked for by name.
-/

namespace Interception.Unicode

/-- A property of several values: the names of each value, in loose spelling, and the runs of code
points that share a value. -/
structure Valued where
  names : List (List String)
  runs : Partition

namespace Valued

/-- The characters with the value that goes by `name`. -/
def ofName? (property : Valued) (name : String) : Option CharSet :=
  (property.names.findIdx? fun aliases => aliases.contains name).map fun place =>
    property.runs.select (· == place)

end Valued

/-- What a character does in a visible unit. -/
def graphemeBreak : Valued where
  names := [
    ["cn", "control"], ["cr"], ["ex", "extend"], ["l"], ["lf"], ["lv"], ["lvt"], ["pp", "prepend"],
    ["ri", "regionalindicator"], ["sm", "spacingmark"], ["t"], ["v"], ["zwj"]]
  runs := .ofLines [
    "a 0 1 4 2 0 1 1 i 0 2n d x 0 d d 1 0 gi d 34 2 7n d 7 2 7b d 19 2 1 d 1 2 1 d 2 2 1 d 2 2 1",
    "d 1 2 1k d 6 7 a d b 2 1 d 1 0 1a d l 2 g d 1 2 2t d 7 2 1 7 1 d 6 2 2 d 2 2 1 d 4 2 x d 1",
    "7 1 d 1 2 u d r 2 2j d b 2 1m d 9 2 9 d 1 2 o d 4 2 1 d 9 2 1 d 3 2 1 d 5 2 17 d 3 2 1g d 2",
    "7 5 d 9 2 16 d o 2 1 7 w 2 1 9 1i d 1 2 1 9 1 2 1 d 3 9 8 2 4 9 1 2 2 9 1 d 7 2 a d 2 2 t d",
    "1 2 2 9 1k d 1 2 1 d 1 2 2 9 4 2 2 d 2 9 2 d 2 9 1 2 9 d 1 2 a d 2 2 q d 1 2 2 d 2 2 1 9 1k",
    "d 1 2 1 d 3 9 2 2 4 d 2 2 2 d 3 2 3 d 1 2 u d 2 2 3 d 1 2 b d 2 2 1 9 1k d 1 2 1 d 3 9 5 2",
    "1 d 2 2 1 9 1 d 2 9 1 2 k d 2 2 m d 6 2 1 d 1 2 2 9 1k d 1 2 1 d 2 2 1 9 4 2 2 d 2 9 2 d 2",
    "9 1 2 7 d 3 2 a d 2 2 u d 1 2 1n d 1 2 1 9 1 2 2 9 3 d 3 9 1 d 3 9 1 2 9 d 1 2 14 d 1 2 3 9",
    "1 2 1j d 1 2 1 d 3 2 4 9 1 d 3 2 1 d 4 2 7 d 2 2 b d 2 2 t d 1 2 2 9 1k d 1 2 1 d 1 9 2 2 1",
    "9 1 2 2 9 1 d 3 2 1 d 4 2 7 d 2 2 b d 2 2 f d 1 9 c d 2 2 2 9 1j d 2 2 1 d 1 2 2 9 4 2 1 d",
    "3 9 1 d 3 9 1 2 1 7 8 d 1 2 a d 2 2 t d 1 2 2 9 1y d 1 2 4 d 1 2 2 9 3 2 1 d 1 2 1 d 7 9 1",
    "2 i d 2 9 1p d 1 2 1 d 1 9 7 2 c d 8 2 2q d 1 2 1 d 1 9 9 2 b d 7 2 21 d 2 2 r d 1 2 1 d 1",
    "2 1 d 1 2 4 d 2 9 1d d e 2 1 9 5 2 1 d 2 2 5 d b 2 1 d 10 2 9 d 1 2 2u d 4 2 1 9 6 2 1 d 2",
    "2 2 9 2 2 n d 2 9 2 2 4 d 3 2 g d 4 2 d d 1 2 1 d 1 9 2 2 6 d 1 2 f d 1 2 2q d 2o 3 20 b 2g",
    "a 9p d 3 2 qa d 4 2 s d 3 2 t d 2 2 u d 2 2 1s d 2 2 1 9 7 2 8 9 1 2 2 9 b 2 9 d 1 2 19 d 3",
    "2 1 0 1 2 39 d 2 2 y d 1 2 3a d 3 2 4 9 2 2 3 9 4 d 2 9 1 2 6 9 3 2 63 d 2 2 2 9 1 2 1l d 1",
    "9 1 2 1 9 7 2 1 d 1 2 1 d 1 2 2 d 8 2 6 9 a 2 2 d 1 2 1c d v 2 1d d 4 2 1 9 1b d a 2 4 9 3",
    "2 12 d 9 2 c d 2 2 1 9 u d 1 9 4 2 2 9 6 2 1k d 1 2 1 9 2 2 3 9 1 2 1 9 5 2 1c d 8 9 8 2 2",
    "9 2 2 48 d 3 2 1 d d 2 1 9 7 2 4 d 1 2 6 d 1 2 2 d 1 9 2 2 5i d 1s 2 ej d 1 0 1 2 1 c 2 0 o",
    "d 7 0 1d d g 0 2o d x 2 2da d 3 2 3x d 1 2 2o d w 2 fe d 6 2 2x d 2 2 n9w d 4 2 1 d a 2 w d",
    "2 2 28 d 2 2 7k d 1 2 3 d 1 2 4 d 1 2 n d 2 9 2 2 1 9 4 d 1 2 2b d 2 9 1e d g 9 2 2 q d i 2",
    "d d 1 2 12 d 8 2 p d b 2 1 9 1 2 c d t 3 3 d 3 2 1 9 1b d 1 2 2 9 4 2 2 9 2 2 2 9 1 2 10 d",
    "1 2 1v d 6 2 2 9 2 2 2 9 2 2 c d 1 2 8 d 1 2 1 9 1a d 1 2 1f d 1 2 1 d 3 2 2 d 2 2 5 d 2 2",
    "1 d 1 2 15 d 1 9 2 2 2 9 5 d 1 9 1 2 6k d 2 9 1 2 2 9 1 2 2 9 1 d 1 9 1 2 i d 1 5 r 6 1 5 r",
    "6 1 5 r 6 1 5 r 6 1 5 r 6 1 5 r 6 1 5 r 6 1 5 r 6 1 5 r 6 1 5 r 6 1 5 r 6 1 5 r 6 1 5 r 6 1",
    "5 r 6 1 5 r 6 1 5 r 6 1 5 r 6 1 5 r 6 1 5 r 6 1 5 r 6 1 5 r 6 1 5 r 6 1 5 r 6 1 5 r 6 1 5 r",
    "6 1 5 r 6 1 5 r 6 1 5 r 6 1 5 r 6 1 5 r 6 1 5 r 6 1 5 r 6 1 5 r 6 1 5 r 6 1 5 r 6 1 5 r 6 1",
    "5 r 6 1 5 r 6 1 5 r 6 1 5 r 6 1 5 r 6 1 5 r 6 1 5 r 6 1 5 r 6 1 5 r 6 1 5 r 6 1 5 r 6 1 5 r",
    "6 1 5 r 6 1 5 r 6 1 5 r 6 1 5 r 6 1 5 r 6 1 5 r 6 1 5 r 6 1 5 r 6 1 5 r 6 1 5 r 6 1 5 r 6 1",
    "5 r 6 1 5 r 6 1 5 r 6 1 5 r 6 1 5 r 6 1 5 r 6 1 5 r 6 1 5 r 6 1 5 r 6 1 5 r 6 1 5 r 6 1 5 r",
    "6 1 5 r 6 1 5 r 6 1 5 r 6 1 5 r 6 1 5 r 6 1 5 r 6 1 5 r 6 1 5 r 6 1 5 r 6 1 5 r 6 1 5 r 6 1",
    "5 r 6 1 5 r 6 1 5 r 6 1 5 r 6 1 5 r 6 1 5 r 6 1 5 r 6 1 5 r 6 1 5 r 6 1 5 r 6 1 5 r 6 1 5 r",
    "6 1 5 r 6 1 5 r 6 1 5 r 6 1 5 r 6 1 5 r 6 1 5 r 6 1 5 r 6 1 5 r 6 1 5 r 6 1 5 r 6 1 5 r 6 1",
    "5 r 6 1 5 r 6 1 5 r 6 1 5 r 6 1 5 r 6 1 5 r 6 1 5 r 6 1 5 r 6 1 5 r 6 1 5 r 6 1 5 r 6 1 5 r",
    "6 1 5 r 6 1 5 r 6 1 5 r 6 1 5 r 6 1 5 r 6 1 5 r 6 1 5 r 6 1 5 r 6 1 5 r 6 1 5 r 6 1 5 r 6 1",
    "5 r 6 1 5 r 6 1 5 r 6 1 5 r 6 1 5 r 6 1 5 r 6 1 5 r 6 1 5 r 6 1 5 r 6 1 5 r 6 1 5 r 6 1 5 r",
    "6 1 5 r 6 1 5 r 6 1 5 r 6 1 5 r 6 1 5 r 6 1 5 r 6 1 5 r 6 1 5 r 6 1 5 r 6 1 5 r 6 1 5 r 6 1",
    "5 r 6 1 5 r 6 1 5 r 6 1 5 r 6 1 5 r 6 1 5 r 6 1 5 r 6 1 5 r 6 1 5 r 6 1 5 r 6 1 5 r 6 1 5 r",
    "6 1 5 r 6 1 5 r 6 1 5 r 6 1 5 r 6 1 5 r 6 1 5 r 6 1 5 r 6 1 5 r 6 1 5 r 6 1 5 r 6 1 5 r 6 1",
    "5 r 6 1 5 r 6 1 5 r 6 1 5 r 6 1 5 r 6 1 5 r 6 1 5 r 6 1 5 r 6 1 5 r 6 1 5 r 6 1 5 r 6 1 5 r",
    "6 1 5 r 6 1 5 r 6 1 5 r 6 1 5 r 6 1 5 r 6 1 5 r 6 1 5 r 6 1 5 r 6 1 5 r 6 1 5 r 6 1 5 r 6 1",
    "5 r 6 1 5 r 6 1 5 r 6 1 5 r 6 1 5 r 6 1 5 r 6 1 5 r 6 1 5 r 6 1 5 r 6 1 5 r 6 1 5 r 6 1 5 r",
    "6 1 5 r 6 1 5 r 6 1 5 r 6 1 5 r 6 1 5 r 6 1 5 r 6 1 5 r 6 1 5 r 6 1 5 r 6 1 5 r 6 1 5 r 6 1",
    "5 r 6 1 5 r 6 1 5 r 6 1 5 r 6 1 5 r 6 1 5 r 6 1 5 r 6 1 5 r 6 1 5 r 6 1 5 r 6 1 5 r 6 1 5 r",
    "6 1 5 r 6 1 5 r 6 1 5 r 6 1 5 r 6 1 5 r 6 1 5 r 6 1 5 r 6 1 5 r 6 1 5 r 6 1 5 r 6 1 5 r 6 1",
    "5 r 6 1 5 r 6 1 5 r 6 1 5 r 6 1 5 r 6 1 5 r 6 1 5 r 6 1 5 r 6 1 5 r 6 1 5 r 6 1 5 r 6 1 5 r",
    "6 1 5 r 6 1 5 r 6 1 5 r 6 1 5 r 6 1 5 r 6 1 5 r 6 1 5 r 6 1 5 r 6 1 5 r 6 1 5 r 6 1 5 r 6 1",
    "5 r 6 1 5 r 6 1 5 r 6 1 5 r 6 1 5 r 6 1 5 r 6 1 5 r 6 1 5 r 6 1 5 r 6 1 5 r 6 1 5 r 6 1 5 r",
    "6 1 5 r 6 1 5 r 6 1 5 r 6 1 5 r 6 1 5 r 6 1 5 r 6 1 5 r 6 1 5 r 6 1 5 r 6 1 5 r 6 1 5 r 6 1",
    "5 r 6 1 5 r 6 1 5 r 6 1 5 r 6 1 5 r 6 1 5 r 6 1 5 r 6 1 5 r 6 1 5 r 6 1 5 r 6 1 5 r 6 1 5 r",
    "6 1 5 r 6 1 5 r 6 1 5 r 6 1 5 r 6 1 5 r 6 1 5 r 6 1 5 r 6 1 5 r 6 1 5 r 6 1 5 r 6 1 5 r 6 1",
    "5 r 6 1 5 r 6 1 5 r 6 1 5 r 6 1 5 r 6 1 5 r 6 1 5 r 6 1 5 r 6 1 5 r 6 1 5 r 6 1 5 r 6 1 5 r",
    "6 1 5 r 6 1 5 r 6 1 5 r 6 1 5 r 6 1 5 r 6 1 5 r 6 1 5 r 6 1 5 r 6 1 5 r 6 1 5 r 6 1 5 r 6 1",
    "5 r 6 1 5 r 6 1 5 r 6 1 5 r 6 1 5 r 6 1 5 r 6 1 5 r 6 1 5 r 6 1 5 r 6 1 5 r 6 1 5 r 6 1 5 r",
    "6 1 5 r 6 1 5 r 6 1 5 r 6 1 5 r 6 1 5 r 6 1 5 r 6 1 5 r 6 1 5 r 6 1 5 r 6 1 5 r 6 1 5 r 6 1",
    "5 r 6 1 5 r 6 1 5 r 6 1 5 r 6 1 5 r 6 1 5 r 6 1 5 r 6 1 5 r 6 1 5 r 6 1 5 r 6 1 5 r 6 1 5 r",
    "6 1 5 r 6 1 5 r 6 1 5 r 6 1 5 r 6 1 5 r 6 1 5 r 6 1 5 r 6 1 5 r 6 1 5 r 6 1 5 r 6 1 5 r 6 1",
    "5 r 6 1 5 r 6 1 5 r 6 1 5 r 6 1 5 r 6 1 5 r 6 1 5 r 6 1 5 r 6 1 5 r 6 1 5 r 6 1 5 r 6 1 5 r",
    "6 1 5 r 6 1 5 r 6 1 5 r 6 1 5 r 6 1 5 r 6 1 5 r 6 c d n b 4 d 1d a 6xu d 1 2 kh d g 2 g d g",
    "2 5r d 1 0 4e d 2 2 28 d c 0 e9 d 1 2 6a d 1 2 45 d 5 2 1ae d 3 2 1 d 2 2 5 d 4 2 14 d 3 2",
    "4 d 1 2 4l d 2 2 fx d 4 2 1t d 5 2 8t d 2 2 27 d 4 2 1y d b 2 1d d 4 2 3e d 1 9 1 2 1 9 1h",
    "d f 2 15 d 1 2 2 d 2 2 a d 3 2 1 9 19 d 3 9 4 2 2 9 2 2 2 d 1 7 4 d 1 2 a d 1 7 1e d 3 2 10",
    "d 5 2 1 9 8 2 g d 2 9 18 d 1 2 c d 2 2 1 9 1c d 3 9 9 2 1 9 1 2 1 d 2 7 5 d 4 2 1 d 1 9 1 2",
    "2k d 3 9 3 2 2 9 4 2 6 d 1 2 2 d 1 2 4d d 1 2 3 9 8 2 l d 2 2 2 9 1j d 2 2 1 d 1 2 1 9 1 2",
    "4 9 2 d 2 9 2 d 2 9 1 2 9 d 1 2 a d 2 9 2 d 7 2 3 d 5 2 1v d 1 2 2 9 6 2 1 d 1 2 2 d 1 2 1",
    "d 3 2 1 9 1 d 2 9 3 2 1 7 1 2 e d 2 2 2a d 3 9 8 2 2 9 3 2 1 9 1 2 n d 1 2 29 d 1 2 2 9 6 2",
    "1 9 1 2 2 9 1 2 1 9 2 2 1 9 2 2 6j d 1 2 2 9 4 2 2 d 4 9 2 2 1 9 2 2 r d 2 2 2a d 3 9 8 2 2",
    "9 1 2 1 9 2 2 2y d 1 2 1 9 1 2 2 9 8 2 2t d 1 2 1 9 1 2 2 d 4 2 1 9 5 2 74 d 3 9 9 2 1 9 2",
    "2 6t d 1 2 5 9 1 d 2 9 2 d 4 2 1 7 1 9 1 7 1 9 1 2 3x d 3 9 4 2 2 d 2 2 4 9 1 2 3 d 1 9 s d",
    "a 2 14 d 6 2 1 9 1 d 4 2 8 d 1 2 9 d 6 2 2 9 3 2 14 d 6 7 d 2 1 9 2 2 b9 d 1 9 7 2 1 d 6 2",
    "1 9 1 2 2a d m 2 1 d 1 9 7 2 1 9 2 2 1 9 2 2 3e d 6 2 3 d 1 2 1 d 2 2 1 d 7 2 1 7 1 2 1u d",
    "5 9 1 d 2 2 1 d 2 9 1 2 1 9 1 2 9n d 2 2 2 9 9 d 2 2 1 7 1 9 1c d 2 9 5 2 3 d 2 9 3 2 n d 1",
    "2 445 d g 0 1 2 6 d f 2 8ug d c 2 3 9 3 2 1xc d 5 2 1n d 7 2 fg d 1 b 3 d 4 b dg d 1 2 1 d",
    "1j 9 7 d 4 2 29 d 1 2 b d 2 2 f57 d 2 2 1 d 4 0 3mk d 1a 2 2 d n 2 f2 d 5 2 3 d 6 2 8 0 8 2",
    "2 d 7 2 u d 4 2 44 d 3 2 1iz d 1j 2 4 d 1e 2 8 d 1 2 e d 1 2 m d 5 2 1 d f 2 11s d 7 2 1 d",
    "h 2 2 d 7 2 1 d 2 2 1 d 5 2 2s d 1 2 4g d 7 2 af d 1 2 1p d 4 2 e4 d 4 2 72 d 2 2 kg d 7 2",
    "31 d 7 2 1p7 d q 8 e3 d 5 2 gx6o d w 0 2o 2 3k 0 6o 2 2s0 0 44jk d"]

/-- What a character does in a word. -/
def wordBreak : Valued where
  names := [
    ["le", "aletter"], ["cr"], ["dq", "doublequote"], ["extend"], ["ex", "extendnumlet"],
    ["fo", "format"], ["hl", "hebrewletter"], ["ka", "katakana"], ["lf"], ["ml", "midletter"],
    ["mn", "midnum"], ["mb", "midnumlet"], ["nl", "newline"], ["nu", "numeric"],
    ["ri", "regionalindicator"], ["sq", "singlequote"], ["wsegspace"], ["zwj"]]
  runs := .ofLines [
    "a i 1 8 2 c 1 1 i i 1 g 1 i 1 2 4 i 1 f 4 i 1 a 1 i 1 b 1 i a d 1 9 1 a 5 i q 0 4 i 1 4 1 i",
    "q 0 a i 1 c 10 i 1 0 2 i 1 5 7 i 1 0 1 i 1 9 1 0 1 i 1 0 5 i n 0 1 i v 0 1 i dc 0 6 i y 0",
    "34 3 5 0 1 i 2 0 2 i 4 0 1 a 1 0 6 i 1 0 1 9 3 0 1 i 1 0 1 i k 0 1 i 2b 0 1 i 3v 0 1 i 7 3",
    "4m 0 1 i 12 0 2 i 4 0 1 i 1 0 1 9 15 0 1 a 1 0 6 i 19 3 1 i 1 3 1 i 2 3 1 i 2 3 1 i 1 3 8 i",
    "r 6 4 i 4 6 1 0 1 9 b i 6 d 6 i 2 a 2 i b 3 1 i 1 5 3 i 17 0 l 3 a d 1 i 1 d 1 a 1 i 2 0 1",
    "3 2r 0 1 i 1 0 7 3 1 d 1 i 6 3 2 0 2 3 1 i 4 3 2 0 a d 3 0 2 i 1 0 f i 2 0 1 3 u 0 r 3 2 i",
    "2h 0 b 3 1 0 e i a d x 0 9 3 2 0 2 i 1 a 1 i 1 0 2 i 1 3 2 i m 0 4 3 1 0 9 3 1 0 3 3 1 0 5",
    "3 i i p 0 3 3 4 i b 0 5 i o 0 1 i 6 0 1 i 2 d 5 i 9 3 16 0 o 3 1 d x 3 1i 0 3 3 1 0 i 3 1 0",
    "7 3 a 0 2 3 2 i a d 1 i g 0 3 3 1 i 8 0 2 i 2 0 2 i m 0 1 i 7 0 1 i 1 0 3 i 4 0 2 i 1 3 1 0",
    "7 3 2 i 2 3 2 i 3 3 1 0 8 i 1 3 4 i 2 0 1 i 3 0 2 3 2 i a d 2 0 a i 1 0 1 i 1 3 2 i 3 3 1 i",
    "6 0 4 i 2 0 2 i m 0 1 i 7 0 1 i 2 0 1 i 2 0 1 i 2 0 2 i 1 3 1 i 5 3 4 i 2 3 2 i 3 3 3 i 1 3",
    "7 i 4 0 1 i 1 0 7 i a d 2 3 3 0 1 3 b i 3 3 1 i 9 0 1 i 3 0 1 i m 0 1 i 7 0 1 i 2 0 1 i 5 0",
    "2 i 1 3 1 0 8 3 1 i 3 3 1 i 3 3 2 i 1 0 f i 2 0 2 3 2 i a d 9 i 1 0 6 3 1 i 3 3 1 i 8 0 2 i",
    "2 0 2 i m 0 1 i 7 0 1 i 2 0 1 i 5 0 2 i 1 3 1 0 7 3 2 i 2 3 2 i 3 3 7 i 3 3 4 i 2 0 1 i 3 0",
    "2 3 2 i a d 1 i 1 0 g i 1 3 1 0 1 i 6 0 3 i 3 0 1 i 4 0 3 i 2 0 1 i 1 0 1 i 2 0 3 i 2 0 3 i",
    "3 0 3 i c 0 4 i 5 3 3 i 3 3 1 i 4 3 2 i 1 0 6 i 1 3 e i a d g i 5 3 8 0 1 i 3 0 1 i n 0 1 i",
    "g 0 2 i 1 3 1 0 7 3 1 i 3 3 1 i 4 3 7 i 2 3 1 i 3 0 2 i 1 0 2 i 2 0 2 3 2 i a d g i 1 0 3 3",
    "1 i 8 0 1 i 3 0 1 i n 0 1 i a 0 1 i 5 0 2 i 1 3 1 0 7 3 1 i 3 3 1 i 4 3 7 i 2 3 6 i 2 0 1 i",
    "2 0 2 3 2 i a d 1 i 2 0 1 3 c i 4 3 9 0 1 i 3 0 1 i 15 0 2 3 1 0 7 3 1 i 3 3 1 i 4 3 1 0 5",
    "i 3 0 1 3 7 i 3 0 2 3 2 i a d a i 6 0 1 i 3 3 1 i i 0 3 i o 0 1 i 9 0 1 i 1 0 2 i 7 0 3 i 1",
    "3 4 i 6 3 1 i 1 3 1 i 8 3 6 i a d 2 i 2 3 1p i 1 3 2 i 7 3 c i 8 3 1 i a d 2f i 1 3 2 i 9 3",
    "b i 7 3 1 i a d 12 i 1 0 n i 2 3 6 i a d b i 1 3 1 i 1 3 1 i 1 3 4 i 2 3 8 0 1 i 10 0 4 i k",
    "3 1 i 2 3 5 0 b 3 1 i 10 3 9 i 1 3 2s i k 3 1 i a d c i 4 3 4 i 3 3 1 i 3 3 2 i 7 3 3 i 4 3",
    "d i c 3 1 i 1 3 a d 4 3 2 i 12 0 1 i 1 0 5 i 1 0 2 i 17 0 1 i 99 0 1 i 4 0 2 i 7 0 1 i 1 0",
    "1 i 4 0 2 i 15 0 1 i 4 0 2 i x 0 1 i 4 0 2 i 7 0 1 i 1 0 1 i 4 0 2 i f 0 1 i 1l 0 1 i 4 0 2",
    "i 1v 0 2 i 3 3 w i g 0 g i 2e 0 2 i 6 0 3 i h8 0 2 i h 0 1 g q 0 5 i 23 0 3 i b 0 7 i i 0 4",
    "3 9 i j 0 3 3 b i i 0 2 3 c i d 0 1 i 3 0 1 i 2 3 1s i w 3 9 i 1 3 2 i a d x i 3 3 1 5 1 3",
    "a d 6 i 2h 0 7 i 5 0 2 3 y 0 1 3 1 0 5 i 1y 0 a i v 0 1 i c 3 4 i c 3 a i a d 3k i b d 11 i",
    "n 0 5 3 1l i a 3 1 i t 3 2 i 1 3 a d 6 i a d m i v 3 1d i 5 3 1b 0 h 3 8 0 3 i a d h i 9 3",
    "c i 3 3 u 0 d 3 2 0 a d 18 0 e 3 c i 10 0 k 3 8 i a d 3 i 3 0 a d 10 0 2 i b 0 5 i 17 0 2 i",
    "3 0 g i 3 3 1 i l 3 4 0 1 3 6 0 1 3 2 0 3 3 1 0 5 i 5c 0 1s 3 7q 0 2 i 6 0 2 i 12 0 2 i 6 0",
    "2 i 8 0 1 i 1 0 1 i 1 0 1 i 1 0 1 i v 0 2 i 1h 0 1 i 7 0 1 i 1 0 3 i 3 0 1 i 7 0 3 i 4 0 2",
    "i 6 0 4 i d 0 5 i 3 0 1 i 7 0 3 i 7 g 1 i 3 g 1 i 1 3 1 h 2 5 8 i 2 b a i 1 b 2 i 1 9 2 c 5",
    "5 1 4 f i 2 4 3 i 1 a f i 1 4 a i 1 g 5 5 1 i a 5 1 i 1 0 d i 1 0 g i d 0 1f i x 3 h i 1 0",
    "4 i 1 0 2 i a 0 1 i 1 0 3 i 5 0 6 i 1 0 1 i 1 0 1 i 1 0 1 i 4 0 1 i b 0 2 i 4 0 5 i 5 0 4 i",
    "1 0 h i 15 0 ml i 1g 0 1ee i 6d 0 6 i 4 0 3 3 2 0 c i 12 0 1 i 1 0 5 i 1 0 2 i 1k 0 7 i 1 0",
    "f i 1 3 n 0 9 i 7 0 1 i 7 0 1 i 7 0 1 i 7 0 1 i 7 0 1 i 7 0 1 i 7 0 1 i 7 0 1 i w 3 1b i 1",
    "0 cw i 1 g 4 i 1 0 10 i 6 3 1 i 5 7 5 i 2 0 2k i 2 3 2 7 3 i 2j 7 1 i 4 7 5 i 17 0 1 i 2m 0",
    "h i w 0 1c i g 7 5s i 1b 7 1 i 2g 7 lgo i wd 0 1v i 1a 0 2 i 7h 0 3 i g 0 a d 2 0 k i 1b 0",
    "4 3 1 i a 3 1 i v 0 2 3 28 0 2 3 m i 5i 0 2 i 2 0 1 i 1 0 1 i 8 0 l i g 0 1 3 3 0 1 3 4 0 1",
    "3 n 0 5 3 4 i 1 3 j i 1g 0 c i 2 3 1e 0 i 3 a i a d 6 i i 3 6 0 3 i 1 0 1 i 2 0 1 3 a d s 0",
    "8 3 2 i n 0 d 3 c i t 0 3 i 4 3 1b 0 e 3 e i 1 0 a d b i 1 3 a i a d 6 i 15 0 e 3 9 i 3 0 1",
    "3 8 0 2 3 2 i a d x i 3 3 1e i 1 3 1 i 3 3 2 i 2 3 5 i 2 3 1 i 1 3 u i b 0 5 3 2 i 3 0 2 3",
    "a i 6 0 2 i 6 0 2 i 6 0 9 i 7 0 1 i 7 0 1 i 1m 0 6 i 37 0 8 3 1 i 2 3 2 i a d 6 i 8mc 0 c i",
    "n 0 4 i 1d 0 6x0 i 7 0 c i 5 0 5 i 1 6 1 3 a 6 1 i d 6 1 i 5 6 1 i 1 6 1 i 2 6 1 i 2 6 1 i",
    "a 6 2q 0 x i a3 0 i i 1s 0 2 i 1i 0 14 i c 0 4 i g 3 3 i 1 9 c i g 3 3 i 2 4 o i 3 4 1 a 1",
    "i 1 b 1 i 1 a 1 9 q i 5 0 1 i 3r 0 2 i 1 5 7 i 1 b 4 i 1 a 1 i 1 b 1 i a d 1 9 1 a 5 i q 0",
    "4 i 1 4 1 i q 0 b i 1k 7 2 3 v 0 3 i 6 0 2 i 6 0 2 i 6 0 2 i 3 0 s i 3 5 4 i c 0 1 i q 0 1",
    "i j 0 1 i 2 0 1 i f 0 2 i e 0 y i 3f 0 1x i 1h 0 3s i 1 3 3m i t 0 3 i 1d 0 f i 1 3 v i w 0",
    "d i u 0 5 i 12 0 5 3 5 i u 0 2 i 10 0 4 i 8 0 1 i 5 0 16 i 4e 0 2 i a d 6 i 10 0 4 i 10 0 4",
    "i 14 0 8 i 1g 0 c i b 0 1 i f 0 1 i 7 0 1 i 2 0 1 i b 0 1 i f 0 1 i 7 0 1 i 2 0 3 i 1g 0 c",
    "i 8n 0 9 i m 0 a i 8 0 o i 6 0 1 i 16 0 1 i 9 0 1x i 6 0 2 i 1 0 1 i 18 0 1 i 2 0 3 i 1 0 2",
    "i n 0 a i n 0 9 i v 0 1t i j 0 1 i 2 0 a i m 0 a i q 0 1y i 1k 0 6 i 2 0 1s i 1 0 3 3 1 i 2",
    "3 5 i 4 3 4 0 1 i 3 0 1 i t 0 2 i 3 3 4 i 1 3 w i t 0 3 i t 0 z i 8 0 1 i s 0 2 3 p i 1i 0",
    "a i m 0 a i j 0 d i i 0 32 i 21 0 1j i 1f 0 d i 1f 0 d i 10 0 4 3 8 i a d 6 i a d s 0 3 i 5",
    "3 1 i n 0 6y i 16 0 1 i 2 3 3 i 2 0 g i 3 0 1j i 4 3 t 0 a i 1 0 8 i m 0 b 3 v i i 0 4 3 16",
    "i l 0 r i n 0 9 i 3 3 1h 0 f 3 v i a d 1 3 2 0 2 3 1 0 9 i 4 3 19 0 b 3 2 i 1 d 4 i 1 3 a i",
    "1 d 2 i p 0 7 i a d 6 i 3 3 10 0 e 3 1 i a d 4 i 1 0 2 3 1 0 8 i z 0 1 3 2 i 1 0 9 i 3 3 1c",
    "0 e 3 4 0 4 i 4 3 1 i 2 3 a d 1 0 1 i 1 0 z i i 0 1 i p 0 c 3 6 i 1 3 2 0 1 3 1q i 7 0 1 i",
    "1 0 1 i 4 0 1 i f 0 1 i a 0 7 i 1b 0 c 3 5 i a d 6 i 4 3 1 i 8 0 2 i 2 0 2 i m 0 1 i 7 0 1",
    "i 2 0 1 i 5 0 1 i 2 3 1 0 7 3 2 i 2 3 2 i 3 3 2 i 1 0 6 i 1 3 5 i 5 0 2 3 2 i 7 3 3 i 5 3 b",
    "i a 0 1 i 1 0 2 i 1 0 1 i 12 0 1 i 1 0 9 3 1 i 1 3 2 i 1 3 1 i 4 3 1 i 5 3 1 0 1 3 1 0 d i",
    "2 3 t i 1h 0 i 3 4 0 5 i a d 4 i 1 3 3 0 u i 1c 0 k 3 2 0 1 i 1 0 8 i a d 4m i 1b 0 7 3 2 i",
    "9 3 n i 4 0 2 3 y i 1c 0 h 3 3 i 1 0 b i a d 12 i 17 0 d 3 1 0 7 i a d 6 i k d 1l i f 3 4 i",
    "a d 5i i 18 0 f 3 2t i 1s 0 a d l i 8 0 2 i 1 0 2 i 8 0 1 i 2 0 1 i o 0 6 3 1 i 2 3 2 i 4 3",
    "1 0 1 3 1 0 2 3 c i a d 1y i 8 0 2 i 13 0 7 3 2 i 7 3 1 0 1 i 1 0 1 3 r i 1 0 a 3 14 0 7 3",
    "1 0 4 3 8 i 1 3 8 i 1 0 b 3 1a 0 g 3 3 i 1 0 i i 21 0 5j i x 0 f i a d 6 i 9 0 1 i 11 0 8 3",
    "1 i 8 3 1 0 f i a d o i u 0 2 i m 3 1 i e 3 21 i 7 0 1 i 2 0 1 i 12 0 6 3 3 i 1 3 1 i 2 3 1",
    "i 7 3 1 0 1 3 8 i a d 6 i 6 0 1 i 2 0 1 i w 0 5 3 1 i 2 3 1 i 5 3 1 0 7 i a d 8m i j 0 4 3",
    "9 i 2 3 1 0 1 3 d 0 1 i y 0 7 3 3 i 5 3 d i a d 1 3 2d i 1 0 27 i pm 0 2u i 33 0 h i 5g 0",
    "218 i 2p 0 f i ts 0 g 5 1 3 6 0 f 3 a i 32z 0 5 i g7 0 5a1 i u 0 i 3 a d 1c6 i ft 0 7 i v 0",
    "1 i a d 6 i 27 0 1 i a d 6 i u 0 2 i 5 3 b i 1c 0 7 3 9 i 4 0 c i a d 9 i l 0 5 i j 0 c0 i",
    "19 0 3 i a d 5i i 1s 0 3k i 23 0 4 i 1 3 1 0 1j 3 7 i 4 3 d 0 1s i 2 0 1 i 1 0 1 3 b i 2 3",
    "cn2 i 4 7 1 i 7 7 1 i 2 7 1 i 1 7 7z i 3 7 1e i 1 7 e i 4 7 23c i 2z 0 5 i d 0 3 i 9 0 7 i",
    "a 0 3 i 2 3 1 i 4 5 37w i a d ee i 1a 3 2 i n 3 f2 i 5 3 3 i 6 3 8 5 8 3 2 i 7 3 u i 4 3 44",
    "i 3 3 cb i 2d 0 1 i 1z 0 1 i 2 0 2 i 1 0 2 i 2 0 2 i 4 0 1 i c 0 1 i 1 0 1 i 7 0 1 i 1t 0 1",
    "i 4 0 2 i 8 0 1 i 7 0 1 i s 0 1 i 4 0 1 i 5 0 1 i 1 0 3 i 7 0 1 i 9g 0 2 i p 0 1 i p 0 1 i",
    "v 0 1 i p 0 1 i v 0 1 i p 0 1 i v 0 1 i p 0 1 i v 0 1 i p 0 1 i 8 0 2 i 1e d e8 i 1j 3 4 i",
    "1e 3 8 i 1 3 e i 1 3 m i 5 3 1 i f 3 uo i v 0 6 i 6 0 5x i 7 3 1 i h 3 2 i 7 3 1 i 2 3 1 i",
    "5 3 5 i 1q 0 x i 1 3 34 i 19 0 3 i 7 3 7 0 2 i a d 4 i 1 0 8x i u 0 1 3 h i 18 0 4 3 a d d2",
    "i s 0 4 3 a d 5y i u 0 2 3 1 0 a d dh i 7 0 1 i 4 0 1 i 2 0 1 i f 0 1 i 5h 0 b i 7 3 15 i",
    "1w 0 7 3 1 0 4 i a d x2 i 4 0 1 i r 0 1 i 2 0 1 i 1 0 2 i 1 0 1 i a 0 1 i 4 0 1 i 1 0 1 i 1",
    "0 6 i 1 0 4 i 1 0 1 i 1 0 1 i 1 0 1 i 3 0 1 i 2 0 1 i 1 0 2 i 1 0 1 i 1 0 1 i 1 0 1 i 1 0 1",
    "i 1 0 1 i 2 0 1 i 1 0 2 i 4 0 1 i 7 0 1 i 4 0 1 i 4 0 1 i 1 0 1 i a 0 1 i h 0 5 i 3 0 1 i 5",
    "0 1 i h 0 hg i q 0 6 i q 0 6 i q 0 2k i q e e3 i 5 3 1kg i a d gvlz i 1 5 u i 2o 3 3k i 6o",
    "3 47bk i"]

/-- What a character does in a sentence. -/
def sentenceBreak : Valued where
  names := [
    ["at", "aterm"], ["cl", "close"], ["cr"], ["ex", "extend"], ["fo", "format"], ["lf"],
    ["lo", "lower"], ["nu", "numeric"], ["le", "oletter"], ["sc", "scontinue"], ["se", "sep"],
    ["sp"], ["st", "sterm"], ["up", "upper"]]
  runs := .ofLines [
    "9 e 1 b 1 5 2 b 1 2 i e 1 b 1 c 1 1 4 e 3 1 2 e 2 9 1 0 1 e a 7 2 9 3 e 1 c 1 e q d 1 1 1 e",
    "1 1 3 e q 6 1 1 1 e 1 1 7 e 1 a q e 1 b 9 e 1 6 1 1 1 e 1 4 7 e 1 6 4 e 1 6 1 1 4 e n d 1 e",
    "7 d o 6 1 e 8 6 1 d 1 6 1 d 1 6 1 d 1 6 1 d 1 6 1 d 1 6 1 d 1 6 1 d 1 6 1 d 1 6 1 d 1 6 1 d",
    "1 6 1 d 1 6 1 d 1 6 1 d 1 6 1 d 1 6 1 d 1 6 1 d 1 6 1 d 1 6 1 d 1 6 1 d 1 6 1 d 1 6 1 d 1 6",
    "1 d 1 6 1 d 1 6 1 d 1 6 1 d 1 6 1 d 1 6 1 d 1 6 1 d 2 6 1 d 1 6 1 d 1 6 1 d 1 6 1 d 1 6 1 d",
    "1 6 1 d 1 6 1 d 1 6 1 d 2 6 1 d 1 6 1 d 1 6 1 d 1 6 1 d 1 6 1 d 1 6 1 d 1 6 1 d 1 6 1 d 1 6",
    "1 d 1 6 1 d 1 6 1 d 1 6 1 d 1 6 1 d 1 6 1 d 1 6 1 d 1 6 1 d 1 6 1 d 1 6 1 d 1 6 1 d 1 6 1 d",
    "1 6 1 d 1 6 1 d 1 6 1 d 1 6 2 d 1 6 1 d 1 6 1 d 3 6 2 d 1 6 1 d 1 6 2 d 1 6 3 d 2 6 4 d 1 6",
    "2 d 1 6 3 d 3 6 2 d 1 6 2 d 1 6 1 d 1 6 1 d 1 6 2 d 1 6 1 d 2 6 1 d 1 6 2 d 1 6 3 d 1 6 1 d",
    "1 6 2 d 2 6 1 8 1 d 3 6 4 8 2 d 1 6 2 d 1 6 2 d 1 6 1 d 1 6 1 d 1 6 1 d 1 6 1 d 1 6 1 d 1 6",
    "1 d 1 6 1 d 1 6 1 d 2 6 1 d 1 6 1 d 1 6 1 d 1 6 1 d 1 6 1 d 1 6 1 d 1 6 1 d 1 6 1 d 1 6 1 d",
    "2 6 2 d 1 6 1 d 1 6 3 d 1 6 1 d 1 6 1 d 1 6 1 d 1 6 1 d 1 6 1 d 1 6 1 d 1 6 1 d 1 6 1 d 1 6",
    "1 d 1 6 1 d 1 6 1 d 1 6 1 d 1 6 1 d 1 6 1 d 1 6 1 d 1 6 1 d 1 6 1 d 1 6 1 d 1 6 1 d 1 6 1 d",
    "1 6 1 d 1 6 1 d 1 6 1 d 1 6 1 d 1 6 1 d 1 6 1 d 1 6 1 d 1 6 1 d 1 6 1 d 7 6 2 d 1 6 2 d 2 6",
    "1 d 1 6 4 d 1 6 1 d 1 6 1 d 1 6 1 d 1 6 1 d 1x 6 1 8 10 6 7 8 2 6 4 e c 8 e e 5 6 7 e 1 8 1",
    "e 1 8 h e 34 3 1 d 1 6 1 d 1 6 1 8 1 e 1 d 1 6 2 e 4 6 1 9 1 d 6 e 1 d 1 e 3 d 1 e 1 d 1 e",
    "2 d 1 6 h d 1 e 9 d z 6 1 d 2 6 3 d 3 6 1 d 1 6 1 d 1 6 1 d 1 6 1 d 1 6 1 d 1 6 1 d 1 6 1 d",
    "1 6 1 d 1 6 1 d 1 6 1 d 1 6 1 d 1 6 1 d 5 6 1 d 1 6 1 e 1 d 1 6 2 d 2 6 1f d 1c 6 1 d 1 6 1",
    "d 1 6 1 d 1 6 1 d 1 6 1 d 1 6 1 d 1 6 1 d 1 6 1 d 1 6 1 d 1 6 1 d 1 6 1 d 1 6 1 d 1 6 1 d 1",
    "6 1 d 1 6 1 d 1 6 1 d 1 6 1 d 1 6 1 e 7 3 1 d 1 6 1 d 1 6 1 d 1 6 1 d 1 6 1 d 1 6 1 d 1 6 1",
    "d 1 6 1 d 1 6 1 d 1 6 1 d 1 6 1 d 1 6 1 d 1 6 1 d 1 6 1 d 1 6 1 d 1 6 1 d 1 6 1 d 1 6 1 d 1",
    "6 1 d 1 6 1 d 1 6 1 d 1 6 1 d 1 6 1 d 1 6 1 d 1 6 1 d 1 6 1 d 1 6 1 d 1 6 2 d 1 6 1 d 1 6 1",
    "d 1 6 1 d 1 6 1 d 1 6 1 d 1 6 1 d 2 6 1 d 1 6 1 d 1 6 1 d 1 6 1 d 1 6 1 d 1 6 1 d 1 6 1 d 1",
    "6 1 d 1 6 1 d 1 6 1 d 1 6 1 d 1 6 1 d 1 6 1 d 1 6 1 d 1 6 1 d 1 6 1 d 1 6 1 d 1 6 1 d 1 6 1",
    "d 1 6 1 d 1 6 1 d 1 6 1 d 1 6 1 d 1 6 1 d 1 6 1 d 1 6 1 d 1 6 1 d 1 6 1 d 1 6 1 d 1 6 1 d 1",
    "6 1 d 1 6 1 d 1 6 1 d 1 6 1 d 1 6 1 d 1 6 1 d 1 6 1 d 1 6 1 d 1 6 1 d 1 6 1 d 1 6 1 d 1 6 1",
    "d 1 6 1 d 1 6 1 d 1 6 1 d 1 6 1 d 1 6 1 d 1 6 1 d 1 6 1 e 12 d 2 e 1 8 3 e 1 9 2 e 15 6 1 c",
    "7 e 19 3 1 e 1 3 1 e 2 3 1 e 2 3 1 e 1 3 8 e r 8 4 e 5 8 c e 6 7 6 e 2 9 2 e b 3 1 e 1 4 3",
    "c 17 8 l 3 a 7 1 e 2 7 1 e 2 8 1 3 2r 8 1 c 1 8 7 3 1 7 1 e 6 3 2 8 2 3 1 e 4 3 2 8 a 7 3 8",
    "2 e 1 8 3 c c e 1 4 1 8 1 3 u 8 r 3 2 e 2h 8 b 3 1 8 e e a 7 x 8 9 3 2 8 2 e 1 9 1 c 1 8 2",
    "e 1 3 2 e m 8 4 3 1 8 9 3 1 8 3 3 1 8 5 3 9 e 1 c 1 e 1 c 3 e 2 c 1 e p 8 3 3 4 e b 8 5 e o",
    "8 1 e 6 8 1 e 2 7 5 e 9 3 16 8 o 3 1 7 x 3 1i 8 3 3 1 8 i 3 1 8 7 3 a 8 2 3 2 c a 7 1 e g 8",
    "3 3 1 e 8 8 2 e 2 8 2 e m 8 1 e 7 8 1 e 1 8 3 e 4 8 2 e 1 3 1 8 7 3 2 e 2 3 2 e 3 3 1 8 8 e",
    "1 3 4 e 2 8 1 e 3 8 2 3 2 e a 7 2 8 a e 1 8 1 e 1 3 2 e 3 3 1 e 6 8 4 e 2 8 2 e m 8 1 e 7 8",
    "1 e 2 8 1 e 2 8 1 e 2 8 2 e 1 3 1 e 5 3 4 e 2 3 2 e 3 3 3 e 1 3 7 e 4 8 1 e 1 8 7 e a 7 2 3",
    "3 8 1 3 b e 3 3 1 e 9 8 1 e 3 8 1 e m 8 1 e 7 8 1 e 2 8 1 e 5 8 2 e 1 3 1 8 8 3 1 e 3 3 1 e",
    "3 3 2 e 1 8 f e 2 8 2 3 2 e a 7 9 e 1 8 6 3 1 e 3 3 1 e 8 8 2 e 2 8 2 e m 8 1 e 7 8 1 e 2 8",
    "1 e 5 8 2 e 1 3 1 8 7 3 2 e 2 3 2 e 3 3 7 e 3 3 4 e 2 8 1 e 3 8 2 3 2 e a 7 1 e 1 8 g e 1 3",
    "1 8 1 e 6 8 3 e 3 8 1 e 4 8 3 e 2 8 1 e 1 8 1 e 2 8 3 e 2 8 3 e 3 8 3 e c 8 4 e 5 3 3 e 3 3",
    "1 e 4 3 2 e 1 8 6 e 1 3 e e a 7 g e 5 3 8 8 1 e 3 8 1 e n 8 1 e g 8 2 e 1 3 1 8 7 3 1 e 3 3",
    "1 e 4 3 7 e 2 3 1 e 3 8 2 e 1 8 2 e 2 8 2 3 2 e a 7 g e 1 8 3 3 1 e 8 8 1 e 3 8 1 e n 8 1 e",
    "a 8 1 e 5 8 2 e 1 3 1 8 7 3 1 e 3 3 1 e 4 3 7 e 2 3 6 e 2 8 1 e 2 8 2 3 2 e a 7 1 e 2 8 1 3",
    "c e 4 3 9 8 1 e 3 8 1 e 15 8 2 3 1 8 7 3 1 e 3 3 1 e 4 3 1 8 5 e 3 8 1 3 7 e 3 8 2 3 2 e a",
    "7 a e 6 8 1 e 3 3 1 e i 8 3 e o 8 1 e 9 8 1 e 1 8 2 e 7 8 3 e 1 3 4 e 6 3 1 e 1 3 1 e 8 3 6",
    "e a 7 2 e 2 3 d e 1c 8 1 3 2 8 7 3 5 e 7 8 8 3 1 e a 7 13 e 2 8 1 e 1 8 1 e 5 8 1 e o 8 1 e",
    "1 8 1 e a 8 1 3 2 8 9 3 1 8 2 e 5 8 1 e 1 8 1 e 7 3 1 e a 7 2 e 4 8 w e 1 8 n e 2 3 6 e a 7",
    "b e 1 3 1 e 1 3 1 e 1 3 4 1 2 3 8 8 1 e 10 8 4 e k 3 1 e 2 3 5 8 b 3 1 e 10 3 9 e 1 3 1l e",
    "17 8 k 3 1 8 a 7 2 c 4 e 6 8 4 3 4 8 3 3 1 8 3 3 2 8 7 3 3 8 4 3 d 8 c 3 1 8 1 3 a 7 4 3 2",
    "e 12 d 1 e 1 d 5 e 1 d 2 e 17 8 1 e 1 6 98 8 1 e 4 8 2 e 7 8 1 e 1 8 1 e 4 8 2 e 15 8 1 e 4",
    "8 2 e x 8 1 e 4 8 2 e 7 8 1 e 1 8 1 e 4 8 2 e f 8 1 e 1l 8 1 e 4 8 2 e 1v 8 2 e 3 3 2 e 1 c",
    "4 e 2 c n e g 8 g e 2e d 2 e 6 6 3 e h8 8 1 e 1 c h 8 1 b q 8 2 1 3 e 23 8 3 e b 8 7 e i 8",
    "4 3 9 e j 8 3 3 2 c 9 e i 8 2 3 c e d 8 1 e 3 8 1 e 2 3 c e 1g 8 w 3 2 c 1 e 1 8 4 e 1 8 1",
    "3 2 e a 7 o e 1 9 1 c 4 e 1 9 1 c 1 e 3 3 1 4 1 3 a 7 6 e 2h 8 7 e 5 8 2 3 y 8 1 3 1 8 5 e",
    "1y 8 a e v 8 1 e c 3 4 e c 3 8 e 2 c a 7 u 8 2 e 5 8 b e 18 8 4 e q 8 6 e b 7 11 e n 8 5 3",
    "4 e 1h 8 a 3 1 e t 3 2 e 1 3 a 7 6 e a 7 d e 1 8 4 c 4 e v 3 1d e 5 3 1b 8 h 3 8 8 1 e 2 c",
    "a 7 2 c 2 e 2 c b e 9 3 9 e 3 c 3 3 u 8 d 3 2 8 a 7 18 8 e 3 c e 10 8 k 3 3 e 2 c 3 e a 7 3",
    "e 3 8 a 7 10 8 2 c 9 6 1 d 1 6 5 e 17 8 2 e 3 8 g e 3 3 1 e l 3 4 8 1 3 6 8 1 3 2 8 3 3 1 8",
    "5 e 5c 6 1s 3 1 d 1 6 1 d 1 6 1 d 1 6 1 d 1 6 1 d 1 6 1 d 1 6 1 d 1 6 1 d 1 6 1 d 1 6 1 d 1",
    "6 1 d 1 6 1 d 1 6 1 d 1 6 1 d 1 6 1 d 1 6 1 d 1 6 1 d 1 6 1 d 1 6 1 d 1 6 1 d 1 6 1 d 1 6 1",
    "d 1 6 1 d 1 6 1 d 1 6 1 d 1 6 1 d 1 6 1 d 1 6 1 d 1 6 1 d 1 6 1 d 1 6 1 d 1 6 1 d 1 6 1 d 1",
    "6 1 d 1 6 1 d 1 6 1 d 1 6 1 d 1 6 1 d 1 6 1 d 1 6 1 d 1 6 1 d 1 6 1 d 1 6 1 d 1 6 1 d 1 6 1",
    "d 1 6 1 d 1 6 1 d 1 6 1 d 1 6 1 d 1 6 1 d 1 6 1 d 1 6 1 d 1 6 1 d 1 6 1 d 1 6 1 d 1 6 1 d 1",
    "6 1 d 1 6 1 d 1 6 1 d 1 6 1 d 1 6 1 d 1 6 1 d 1 6 1 d 1 6 1 d 1 6 1 d 1 6 1 d 1 6 1 d 1 6 1",
    "d 1 6 1 d 1 6 1 d 1 6 1 d 1 6 1 d 1 6 1 d 1 6 1 d 1 6 1 d 9 6 1 d 1 6 1 d 1 6 1 d 1 6 1 d 1",
    "6 1 d 1 6 1 d 1 6 1 d 1 6 1 d 1 6 1 d 1 6 1 d 1 6 1 d 1 6 1 d 1 6 1 d 1 6 1 d 1 6 1 d 1 6 1",
    "d 1 6 1 d 1 6 1 d 1 6 1 d 1 6 1 d 1 6 1 d 1 6 1 d 1 6 1 d 1 6 1 d 1 6 1 d 1 6 1 d 1 6 1 d 1",
    "6 1 d 1 6 1 d 1 6 1 d 1 6 1 d 1 6 1 d 1 6 1 d 1 6 1 d 1 6 1 d 1 6 1 d 1 6 1 d 1 6 1 d 1 6 1",
    "d 1 6 1 d 1 6 1 d 1 6 1 d 1 6 1 d 1 6 1 d 1 6 1 d 1 6 1 d 1 6 1 d 1 6 1 d 1 6 1 d 9 6 8 d 6",
    "6 2 e 6 d 2 e 8 6 8 d 8 6 8 d 6 6 2 e 6 d 2 e 8 6 1 e 1 d 1 e 1 d 1 e 1 d 1 e 1 d 8 6 8 d e",
    "6 2 e 8 6 8 d 8 6 8 d 8 6 8 d 5 6 1 e 2 6 5 d 1 e 1 6 3 e 3 6 1 e 2 6 5 d 3 e 4 6 2 e 2 6 4",
    "d 4 e 8 6 5 d 5 e 3 6 1 e 2 6 5 d 3 e b b 1 4 2 3 2 4 3 e 2 9 3 e 8 1 4 e 1 0 3 e 2 a 5 4 1",
    "b 9 e 2 1 1 e 2 c 7 e 2 1 3 c l e 1 b 5 4 1 e a 4 1 e 1 6 b e 2 1 1 6 d e 2 1 1 e d 6 1f e",
    "x 3 h e 1 d 4 e 1 d 2 e 1 6 3 d 2 6 3 d 1 6 1 e 1 d 3 e 5 d 6 e 1 d 1 e 1 d 1 e 1 d 1 e 4 d",
    "1 e 1 6 4 d 1 6 4 8 1 6 2 e 2 6 2 d 5 e 1 d 4 6 4 e 1 6 h e g d g 6 3 8 1 d 1 6 4 8 an e 4",
    "1 t e 2 1 az e q d q 6 hd e 6 1 7 e e 1 27 e 2 1 v e a 1 b7 e m 1 1r e 4 1 w e 2 1 ea e 1c",
    "d 1c 6 1 d 1 6 3 d 2 6 1 d 1 6 1 d 1 6 1 d 1 6 4 d 1 6 1 d 2 6 1 d 8 6 3 d 1 6 1 d 1 6 1 d",
    "1 6 1 d 1 6 1 d 1 6 1 d 1 6 1 d 1 6 1 d 1 6 1 d 1 6 1 d 1 6 1 d 1 6 1 d 1 6 1 d 1 6 1 d 1 6",
    "1 d 1 6 1 d 1 6 1 d 1 6 1 d 1 6 1 d 1 6 1 d 1 6 1 d 1 6 1 d 1 6 1 d 1 6 1 d 1 6 1 d 1 6 1 d",
    "1 6 1 d 1 6 1 d 1 6 1 d 1 6 1 d 1 6 1 d 1 6 1 d 1 6 1 d 1 6 1 d 1 6 1 d 1 6 1 d 1 6 1 d 1 6",
    "1 d 1 6 1 d 1 6 1 d 1 6 1 d 1 6 1 d 1 6 1 d 1 6 1 d 1 6 1 d 1 6 1 d 1 6 1 d 1 6 1 d 1 6 1 d",
    "1 6 1 d 2 6 6 e 1 d 1 6 1 d 1 6 3 3 1 d 1 6 5 e 3 c 4 e 12 6 1 e 1 6 5 e 1 6 2 e 1k 8 7 e 1",
    "8 f e 1 3 n 8 9 e 7 8 1 e 7 8 1 e 7 8 1 e 7 8 1 e 7 8 1 e 7 8 1 e 7 8 1 e 7 8 1 e w 3 e 1 e",
    "e 2 1 2 e a 1 4 e 1 c 1 8 c e 1 c 5 e 1 1 g e 2 c 8 1 bn e 1 b 1 9 1 c 2 e 3 8 a 1 2 e 8 1",
    "1 e 3 1 1 e 9 8 6 3 1 e 5 8 2 e 5 8 4 e 2e 8 2 e 2 3 2 e 3 8 1 e 2i 8 1 e 4 8 5 e 17 8 1 e",
    "2m 8 h e w 8 1c e g 8 e8 e 534 8 1s e h3h 8 1v e 1a 8 1 e 1 c 7h 8 1 e 2 c g 8 a 7 2 8 k e",
    "1 d 1 6 1 d 1 6 1 d 1 6 1 d 1 6 1 d 1 6 1 d 1 6 1 d 1 6 1 d 1 6 1 d 1 6 1 d 1 6 1 d 1 6 1 d",
    "1 6 1 d 1 6 1 d 1 6 1 d 1 6 1 d 1 6 1 d 1 6 1 d 1 6 1 d 1 6 1 d 1 6 1 d 1 6 1 d 1 6 1 d 1 6",
    "1 8 4 3 1 e a 3 1 e 1 8 1 d 1 6 1 d 1 6 1 d 1 6 1 d 1 6 1 d 1 6 1 d 1 6 1 d 1 6 1 d 1 6 1 d",
    "1 6 1 d 1 6 1 d 1 6 1 d 1 6 1 d 1 6 1 d 3 6 2 3 28 8 2 3 1 e 1 c 3 e 1 c v e 9 8 2 e 1 d 1",
    "6 1 d 1 6 1 d 1 6 1 d 1 6 1 d 1 6 1 d 1 6 1 d 3 6 1 d 1 6 1 d 1 6 1 d 1 6 1 d 1 6 1 d 1 6 1",
    "d 1 6 1 d 1 6 1 d 1 6 1 d 1 6 1 d 1 6 1 d 1 6 1 d 1 6 1 d 1 6 1 d 1 6 1 d 1 6 1 d 1 6 1 d 1",
    "6 1 d 1 6 1 d 1 6 1 d 1 6 1 d 1 6 1 d 1 6 1 d 1 6 1 d 1 6 1 d 1 6 1 d 1 6 1 d 1 6 1 d 1 6 1",
    "d 1 6 1 d 1 6 1 d a 6 1 d 1 6 1 d 1 6 2 d 1 6 1 d 1 6 1 d 1 6 1 d 1 6 1 d 1 6 1 8 2 e 1 d 1",
    "6 1 d 1 6 1 8 1 d 1 6 1 d 3 6 1 d 1 6 1 d 1 6 1 d 1 6 1 d 1 6 1 d 1 6 1 d 1 6 1 d 1 6 1 d 1",
    "6 1 d 1 6 1 d 1 6 5 d 1 6 5 d 1 6 1 d 1 6 1 d 1 6 1 d 1 6 1 d 1 6 1 d 1 6 1 d 1 6 1 d 1 6 4",
    "d 1 6 1 d 1 6 2 d 1 6 2 e 1 d 1 6 1 e 1 6 1 e 1 6 1 d 1 6 1 d 1 6 1 d 1 6 1 d l e 3 6 1 d 1",
    "6 1 8 3 6 7 8 1 3 3 8 1 3 4 8 1 3 n 8 5 3 4 e 1 3 j e 1g 8 2 e 2 c 8 e 2 3 1e 8 i 3 8 e 2 c",
    "a 7 6 e i 3 6 8 3 e 1 8 1 e 2 8 1 3 a 7 s 8 8 3 1 e 1 c n 8 d 3 c e t 8 3 e 4 3 1b 8 e 3 7",
    "e 2 c 5 e 1 8 a 7 6 e 5 8 1 3 a 8 a 7 5 8 1 e 15 8 e 3 9 e 3 8 1 3 8 8 2 3 2 e a 7 3 e 3 c",
    "n 8 3 e 1 8 3 3 1e 8 1 3 1 8 3 3 2 8 2 3 5 8 2 3 1 8 1 3 1 8 o e 3 8 2 e b 8 5 3 2 c 3 8 2",
    "3 a e 6 8 2 e 6 8 2 e 6 8 9 e 7 8 1 e 7 8 1 e 17 6 1 e e 6 6 e 28 6 z 8 8 3 1 c 2 3 2 e a 7",
    "6 e 8mc 8 c e n 8 4 e 1d 8 6is e a6 8 2 e 2y 8 12 e 7 6 c e 5 6 5 e 1 8 1 3 a 8 1 e d 8 1 e",
    "5 8 1 e 1 8 1 e 2 8 1 e 2 8 1 e 30 8 x e a3 8 2 1 g e 1s 8 2 e 1i 8 14 e c 8 4 e g 3 2 9 1",
    "c 2 9 2 c 2 1 7 e g 3 1 e 2 9 2 e g 1 2 e 2 1 7 e 2 9 1 0 1 e 2 9 2 c 1 9 6 1 4 e 1 9 c e 5",
    "8 1 e 3r 8 2 e 1 4 1 e 1 c 6 e 2 1 2 e 2 9 1 0 1 e a 7 2 9 3 e 1 c 1 e q d 1 1 1 e 1 1 3 e",
    "q 6 1 1 1 e 1 1 1 e 2 1 1 c 2 1 1 9 1 e 1k 8 2 3 v 8 3 e 6 8 2 e 6 8 2 e 6 8 2 e 3 8 s e 3",
    "4 4 e c 8 1 e q 8 1 e j 8 1 e 2 8 1 e f 8 2 e e 8 y e 3f 8 1x e 1h 8 3s e 1 3 3m e t 8 3 e",
    "1d 8 f e 1 3 v e w 8 d e u 8 5 e 12 8 5 3 5 e u 8 2 e 10 8 4 e 8 8 1 e 5 8 16 e 14 d 14 6",
    "26 8 2 e a 7 6 e 10 d 4 e 10 6 4 e 14 8 8 e 1g 8 c e b d 1 e f d 1 e 7 d 1 e 2 d 1 e b 6 1",
    "e f 6 1 e 7 6 1 e 2 6 3 e 1g 8 c e 8n 8 9 e m 8 a e 8 8 o e 1 6 2 8 3 6 1 e 16 6 1 e 9 6 1x",
    "e 6 8 2 e 1 8 1 e 18 8 1 e 2 8 3 e 1 8 2 e n 8 a e n 8 9 e v 8 1t e j 8 1 e 2 8 a e m 8 a e",
    "q 8 1y e 1k 8 6 e 2 8 1s e 1 8 3 3 1 e 2 3 5 e 4 3 4 8 1 e 3 8 1 e t 8 2 e 3 3 4 e 1 3 m e",
    "2 c 8 e t 8 3 e t 8 z e 8 8 1 e s 8 2 3 p e 1i 8 a e m 8 a e j 8 d e i 8 32 e 21 8 1j e 1f",
    "d d e 1f 6 d e 10 8 4 3 8 e a 7 6 e a 7 6 8 m d 3 e 5 3 1 e 1 8 m 6 6y e 16 8 1 e 2 3 3 e 2",
    "8 g e 3 8 1j e 4 3 t 8 a e 1 8 8 e m 8 b 3 4 e 5 c m e i 8 4 3 4 c 12 e l 8 r e n 8 9 e 3 3",
    "1h 8 f 3 2 c t e a 7 1 3 2 8 2 3 1 8 9 e 4 3 19 8 b 3 2 e 1 7 4 c 1 3 a e 1 7 2 e p 8 7 e a",
    "7 6 e 3 3 10 8 e 3 1 e a 7 1 e 3 c 1 8 2 3 1 8 8 e z 8 1 3 2 e 1 8 9 e 3 3 1c 8 e 3 4 8 2 c",
    "2 e 4 3 1 c 2 3 a 7 1 8 1 e 1 8 1 e 2 c w e i 8 1 e p 8 c 3 2 c 1 e 2 c 1 e 1 3 2 8 1 3 1q",
    "e 7 8 1 e 1 8 1 e 4 8 1 e f 8 1 e a 8 1 c 6 e 1b 8 c 3 5 e a 7 6 e 4 3 1 e 8 8 2 e 2 8 2 e",
    "m 8 1 e 7 8 1 e 2 8 1 e 5 8 1 e 2 3 1 8 7 3 2 e 2 3 2 e 3 3 2 e 1 8 6 e 1 3 5 e 5 8 2 3 2 e",
    "7 3 3 e 5 3 b e a 8 1 e 1 8 2 e 1 8 1 e 12 8 1 e 1 8 9 3 1 e 1 3 2 e 1 3 1 e 4 3 1 e 5 3 1",
    "8 1 3 1 8 2 c b e 2 3 t e 1h 8 i 3 4 8 2 c 3 e a 7 4 e 1 3 3 8 u e 1c 8 k 3 2 8 1 e 1 8 8 e",
    "a 7 4m e 1b 8 7 3 2 e 9 3 1 e 2 c 5 e f c 4 8 2 3 y e 1c 8 h 3 2 c 1 e 1 8 b e a 7 12 e 17",
    "8 d 3 1 8 7 e a 7 6 e k 7 s e r 8 2 e f 3 4 e a 7 2 e 3 c 1 e 7 8 55 e 18 8 f 3 2t e w d w",
    "6 a 7 l e 8 8 2 e 1 8 2 e 8 8 1 e 2 8 1 e o 8 6 3 1 e 2 3 2 e 4 3 1 8 1 3 1 8 2 3 1 c 1 e 1",
    "c 9 e a 7 1y e 8 8 2 e 13 8 7 3 2 e 7 3 1 8 1 e 1 8 1 3 r e 1 8 a 3 14 8 7 3 1 8 4 3 3 e 2",
    "c 3 e 1 3 8 e 1 8 b 3 1a 8 g 3 1 e 2 c 1 8 i e 21 8 5j e x 8 f e a 7 6 e 9 8 1 e 11 8 8 3 1",
    "e 8 3 1 8 2 c d e a 7 o e u 8 2 e m 3 1 e e 3 21 e 7 8 1 e 2 8 1 e 12 8 6 3 3 e 1 3 1 e 2 3",
    "1 e 7 3 1 8 1 3 8 e a 7 6 e 6 8 1 e 2 8 1 e w 8 5 3 1 e 2 3 1 e 5 3 1 8 7 e a 7 8m e j 8 4",
    "3 2 c 7 e 2 3 1 8 1 3 d 8 1 e y 8 7 3 3 e 5 3 2 c b e a 7 1 3 2d e 1 8 27 e pm 8 2u e 33 8",
    "h e 5g 8 218 e 2p 8 f e ts 8 g 4 1 3 6 8 f 3 a e 32z 8 5 e g7 8 5a1 e u 8 i 3 a 7 1c6 e ft",
    "8 7 e v 8 1 e a 7 4 e 2 c 27 8 1 e a 7 6 e u 8 2 e 5 3 1 c a e 1c 8 7 3 2 c 7 e 4 8 1 c b e",
    "a 7 9 e l 8 5 e j 8 c0 e 19 8 1 e 2 c a 7 5i e w d w 6 o e 1 c 2v e 23 8 4 e 1 3 1 8 1j 3 7",
    "e 4 3 d 8 1s e 2 8 1 e 1 8 1 3 b e 2 3 e e 4qg 8 8 e ye 8 15 e a 8 6w7 e 4 8 1 e 7 8 1 e 2",
    "8 1 e 83 8 f e 1 8 t e 3 8 2 e 1 8 e e 4 8 8 e b0 8 1s4 e 2z 8 5 e d 8 3 e 9 8 7 e a 8 3 e",
    "2 3 1 c 4 4 37w e a 7 ee e 1a 3 2 e n 3 f2 e 5 3 3 e 6 3 8 4 8 3 2 e 7 3 u e 4 3 44 e 3 3",
    "cb e q d q 6 q d 7 6 1 e i 6 q d q 6 1 d 1 e 2 d 2 e 1 d 2 e 2 d 2 e 4 d 1 e 8 d 4 6 1 e 1",
    "6 1 e 7 6 1 e b 6 q d q 6 2 d 1 e 4 d 2 e 8 d 1 e 7 d 1 e q 6 2 d 1 e 4 d 1 e 5 d 1 e 1 d 3",
    "e 7 d 1 e q 6 q d q 6 q d q 6 q d q 6 q d q 6 q d q 6 q d s 6 2 e p d 1 e p 6 1 e 6 6 p d 1",
    "e p 6 1 e 6 6 p d 1 e p 6 1 e 6 6 p d 1 e p 6 1 e 6 6 p d 1 e p 6 1 e 6 6 1 d 1 6 2 e 1e 7",
    "e8 e 1j 3 4 e 1e 3 8 e 1 3 e e 1 3 3 e 1 c i e 5 3 1 e f 3 uo e a 6 1 8 k 6 6 e 6 6 5x e 7",
    "3 1 e h 3 2 e 7 3 1 e 2 3 1 e 5 3 5 e 1q 6 x e 1 3 34 e 19 8 3 e 7 3 7 8 2 e a 7 4 e 1 8 8x",
    "e u 8 1 3 h e 18 8 4 3 a 7 d2 e s 8 4 3 a 7 5y e u 8 2 3 1 8 a 7 dh e 7 8 1 e 4 8 1 e 2 8 1",
    "e f 8 1 e 5h 8 b e 7 3 15 e y d y 6 7 3 1 8 4 e a 7 x2 e 4 8 1 e r 8 1 e 2 8 1 e 1 8 2 e 1",
    "8 1 e a 8 1 e 4 8 1 e 1 8 1 e 1 8 6 e 1 8 4 e 1 8 1 e 1 8 1 e 1 8 1 e 3 8 1 e 2 8 1 e 1 8 2",
    "e 1 8 1 e 1 8 1 e 1 8 1 e 1 8 1 e 1 8 1 e 2 8 1 e 1 8 2 e 4 8 1 e 7 8 1 e 4 8 1 e 4 8 1 e 1",
    "8 1 e a 8 1 e h 8 5 e 3 8 1 e 5 8 1 e h 8 hg e q d 6 e q d 6 e q d z0 e 3 1 12v e a 7 sm e",
    "wyo 8 w e 37e 8 6 e 66 8 2 e 4g2 8 e e 5rl 8 f e ha 8 1wi e f2 8 15u e 3t7 8 5 e 38g 8 f975",
    "e 1 4 u e 2o 3 3k e 6o 3 47bk e"]

end Interception.Unicode
