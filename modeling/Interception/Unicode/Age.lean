import Interception.Unicode.Table

/-!
# The age of a character

The age is the version of the standard in which a character was assigned. To ask for a version is
to ask for everything that it holds, older characters included.
-/

namespace Interception.Unicode.Age

/-- The names of the versions, in loose spelling, the oldest first. -/
def names : List (List String) := [
  ["1.1", "v11"], ["2.0", "v20"], ["2.1", "v21"], ["3.0", "v30"], ["3.1", "v31"], ["3.2", "v32"],
  ["4.0", "v40"], ["4.1", "v41"], ["5.0", "v50"], ["5.1", "v51"], ["5.2", "v52"], ["6.0", "v60"],
  ["6.1", "v61"], ["6.2", "v62"], ["6.3", "v63"], ["7.0", "v70"], ["8.0", "v80"], ["9.0", "v90"],
  ["10.0", "v100"], ["11.0", "v110"], ["12.0", "v120"], ["12.1", "v121"], ["13.0", "v130"],
  ["14.0", "v140"], ["15.0", "v150"], ["15.1", "v151"], ["16.0", "v160"]]

/-- Runs of code points of one age: how many, then the place in `names`, or the place behind the
last for what is unassigned. -/
def runs : Partition := .ofLines [
    "dy 0 4 3 u 0 8 3 1 5 1 6 i 3 3 6 b 7 e 8 2h 0 5 3 2 6 1b 0 1 3 a 0 5 3 h 6 1y 0 9 3 1 5 8 6",
    "5 7 3 6 2 0 1 3 d 5 4 9 2 0 2 9 2 r 1 0 3 8 1 0 1 f 4 r 7 0 1 r 1 0 1 r k 0 1 r 18 0 1 9 7",
    "0 1 3 2 5 1 0 1 3 1 0 1 3 1 0 1 3 1 0 1 3 i 0 2 4 1 5 5 6 4 7 1 3 c 0 1 3 1u 0 1 3 c 0 1 3",
    "15 0 1 9 2 3 2 5 4 3 1h 0 2 5 2 0 2 5 2 0 2 5 1 8 s 0 2 3 8 0 2 7 2 0 6 8 g 5 4 8 g 9 2 a 2",
    "b 8 f 1 r 12 0 2 r 7 0 1 j 13 0 1 j 1 0 1 3 2 r 2 f 1 c 1 r h 1 1 7 d 1 a 0 1 8 9 0 1 1 3 7",
    "8 r r 0 4 r 1 j 5 0 b r 4 6 1 c 1 f 5 9 1 7 1 0 9 6 5 9 1 0 1 e 1 n 1 7 1 0 1 b q 0 5 9 j 0",
    "3 3 3 6 6 7 1 b e 0 2 5 20 0 2 3 5 0 1 3 f 0 1 3 u 0 2 6 a 0 5 3 1 6 e 3 1 r u 3 3 6 r 3 2",
    "r 3 6 u 7 i 9 1d 3 1 5 e r 1n 8 2 r 3 j 1a a 2 r f a 1 r s b 2 r 1 b 1 r b i 5 r v n 1 r 2",
    "n 5 r 1 q 8 n 1 c 1 f b c 6 f 2 g 1 n 8 h a m b n 1 j f h 1 g r c 1 f 1 a 3 0 1 6 1h 0 2 b",
    "i 0 1 a 1 b 5 0 1 a 2 b p 0 2 9 5 b 1 f 2 a 2 8 1 7 2 8 1 f 3 0 1 r 8 0 2 r 2 0 2 r m 0 1 r",
    "7 0 1 r 1 0 3 r 4 0 2 r 1 0 1 6 7 0 2 r 2 0 2 r 3 0 1 7 8 r 1 0 4 r 2 0 1 r 5 0 2 r l 0 1 a",
    "2 i 1 j 2 r 1 6 1 0 1 6 1 r 6 0 4 r 2 0 2 r m 0 1 r 7 0 1 r 2 0 1 r 2 0 1 r 2 0 2 r 1 0 1 r",
    "5 0 4 r 2 0 2 r 3 0 3 r 1 9 7 r 4 0 1 r 1 0 7 r f 0 1 9 1 j a r 3 0 1 r 7 0 1 6 1 0 1 r 3 0",
    "1 r m 0 1 r 7 0 1 r 2 0 1 r 5 0 2 r a 0 1 r 3 0 1 r 3 0 2 r 1 0 f r 1 0 3 6 2 r a 0 1 c 1 6",
    "7 r 1 g 6 i 1 r 3 0 1 r 8 0 2 r 2 0 2 r m 0 1 r 7 0 1 r 2 0 1 r 1 6 4 0 2 r 8 0 1 9 2 r 2 0",
    "2 r 3 0 7 r 1 m 2 0 4 r 2 0 1 r 3 0 2 9 2 r b 0 1 6 6 b a r 2 0 1 r 6 0 3 r 3 0 1 r 4 0 3 r",
    "2 0 1 r 1 0 1 r 2 0 3 r 2 0 3 r 3 0 3 r 8 0 1 7 3 0 4 r 5 0 3 r 3 0 1 r 4 0 2 r 1 9 6 r 1 0",
    "e r 1 7 c 0 8 6 5 r 1 f 3 0 1 j 8 0 1 r 3 0 1 r n 0 1 r a 0 1 f 5 0 2 r 1 n 1 9 7 0 1 r 3 0",
    "1 r 4 0 7 r 2 0 1 r 2 9 1 g 2 r 1 n 2 r 2 0 2 9 2 r a 0 7 r 1 k 8 9 1 h 1 f 2 0 1 j 8 0 1 r",
    "3 0 1 r n 0 1 r a 0 1 r 5 0 2 r 2 6 7 0 1 r 3 0 1 r 4 0 7 r 2 0 6 r 1 n 1 0 1 r 2 0 2 8 2 r",
    "a 0 1 r 2 8 1 o c r 1 i 1 f 2 0 1 m 8 0 1 r 3 0 1 r n 0 1 b g 0 1 b 2 i 1 9 6 0 1 9 1 r 3 0",
    "1 r 4 0 1 b 1 h 4 r 3 h 1 0 7 h 1 g 2 0 2 9 2 r a 0 6 9 3 h 7 9 1 r 1 m 2 3 1 r i 3 3 r o 3",
    "1 r 9 3 1 r 1 3 2 r 7 3 3 r 1 3 4 r 6 3 1 r 1 3 1 r 8 3 6 r a f 2 r 3 3 c r 1m 0 4 r t 0 11",
    "r 2 0 1 r 1 0 1 r 1 k 2 0 1 k 1 0 1 r 1 k 1 0 6 k 4 0 1 k 7 0 1 k 3 0 1 r 1 0 1 r 1 0 2 k 2",
    "0 1 k d 0 1 k 3 0 2 r 5 0 1 r 1 0 1 r 6 0 1 o 1 r a 0 2 r 2 0 2 c w r 20 1 1 r x 1 1 3 2 9",
    "4 r r 1 4 b 6 1 1 3 1 1 1 r l 1 3 3 7 1 1 3 1 1 3 3 1 r f 3 1 r 1 9 1 3 2 7 3 9 4 a 2 b 11",
    "r y 3 1 9 5 3 1 9 2 3 1 9 7 3 3 9 4 3 6 9 q 3 1s 9 4 a 2 9 12 0 1 r 1 c 5 r 1 c 2 r 13 0 2",
    "5 2 7 1 0 1 7 3 c 2i 0 5 a 1w 0 5 a 2a 0 6 a 7 3 1 7 1r 3 1 7 1 3 1 r 4 3 2 r 7 3 1 r 1 3 1",
    "r 4 3 2 r 13 3 1 7 1 3 1 r 4 3 2 r v 3 1 7 1 3 1 r 4 3 2 r 7 3 1 r 1 3 1 r 4 3 2 r 7 3 1 7",
    "7 3 1 r n 3 1 7 v 3 1 7 1 3 1 r 4 3 2 r 7 3 1 7 13 3 1 7 j 3 2 r 2 b 2 7 s 3 3 r q 7 6 r 2d",
    "3 1 g 2 r 6 g 2 r 1 a hi 3 9 a t 3 3 r 29 3 8 f 7 r d 5 1 n 7 5 1 n 9 r 1 n n 5 9 r k 5 c r",
    "d 5 1 r 3 5 1 r 2 5 c r 2l 3 1 6 2 r a 3 6 r a 6 6 r f 3 1 n a 3 6 r 2g 3 1 j 7 r 16 3 1 9",
    "5 r 1y a a r t 6 2 f 1 r c 6 4 r c 6 4 r 1 6 3 r 16 6 2 r 5 6 b r 16 7 2 a 4 r q 7 6 r a 7",
    "1 a 3 r 2 7 w 6 s 7 2 r 2 7 1r a 1 r t a 2 r b a 6 r a a 6 r e a 2 r f f 2 m e n 1d r 24 8",
    "1 n 1 r 2 q 19 8 2 n 1 q 17 9 3 c c 9 6 c 1g b 8 r 4 b 1k 9 3 r f 9 3 r 1f 9 9 h 2 q 5 r 17",
    "j 2 r 3 j 8 c 8 r z a 4 c 1 i 2 f 1 k 5 r 30 6 2g 7 7 8 s 9 f f 4 i 1 n 1 h 1 b 1 a 2 8 4b",
    "0 1 1 4 9 2i 0 6 9 m 0 2 r 6 0 2 r 12 0 2 r 6 0 2 r 8 0 1 r 1 0 1 r 1 0 1 r 1 0 1 r v 0 2 r",
    "1h 0 1 r f 0 1 r e 0 2 r 6 0 1 r j 0 2 r 3 0 1 r 9 0 1 r 1b 0 1 3 n 0 1 5 6 3 5 5 2 6 2 7 1",
    "5 7 7 5 5 1 9 1 r 4 e 7 0 1 5 2 r r 0 1 r 5 7 8 b 3 r b 0 1 1 1 2 3 3 2 5 4 7 3 a 1 b 1 d 3",
    "f 1 g 1 i 1 n f r i 0 2 3 7 5 1 7 4 8 1 9 f r 1l 0 2 3 1 6 1 7 f 5 1 7 2 8 1 9 3 a 1c 0 1 3",
    "1 8 4 9 1 a 2 g 4 r 2j 0 9 3 c 5 6q 0 e 5 1 0 1 3 3d 0 1 3 1 5 u 3 1g 5 2 6 b 7 c 8 1 a b b",
    "7 f 4 h 1 i 11 0 2 3 3 q m r b 0 l r 3v 0 k 5 1 6 46 0 a 5 28 0 8 3 8 5 k 0 2 6 2 5 1 7 1 3",
    "2e 0 2 3 c 5 2 7 a 5 8 6 b 7 1 9 2 a 2 6 g 7 1 8 a 9 3 a 4 9 a a 1 b j a 1 b 1 a 4 b o a 1",
    "f 4 0 1 b 4 0 2 b s 0 1 b z 0 1 b 1 0 1 b 4 0 3 b 1 0 1 a 7 0 2 b 7 0 e 5 v 0 3 b o 0 1 b e",
    "0 1 b 7 7 4 8 1 c 1 9 1 c 2 b s 5 4 9 g 5 74 3 e8 5 e 6 6 7 7 8 5 9 4 8 15 9 3 f 5 9 5 a q",
    "f 2 r w f 1 r 1 m y f 3 j c f 1 k 8 f 1 i p j 4 g f j 1 k 1b 7 1 n 1b 7 1 n d 8 3 9 1 a 3 9",
    "4 8 6 9 2 a 2z 7 7 a 2 c 5 r 19 7 1 r 1 c 5 r 1 c 2 r 1i 7 2 c 7 r 1 7 1 b e r 1 b n 7 9 r",
    "7 7 1 r 7 7 1 r 7 7 1 r 7 7 1 r 7 7 1 r 7 7 1 r 7 7 1 r 7 7 1 r w 9 o 7 4 9 2 7 j 9 1 a a c",
    "7 f 2 h 5 i 5 j 1 k 3 m b n y r q 3 1 r 2h 3 c r 5y 3 q r c 3 4 p 1k 0 3 3 3 5 1 3 1 0 1 r",
    "2c 0 2 5 2 r 6 0 2 5 2m 0 1 5 5 r 14 0 1 9 1 i 1 j 1 r 2m 0 1 r g 0 o 3 3 b 5 m g 7 k 9 2 q",
    "9 r 1 p g 5 t 0 2 6 1 r 10 0 c a 1 6 f 5 s 0 2 6 1 7 1e 0 f 5 c 0 4 6 1b 0 1 l 3b 0 4 6 2r",
    "0 2 6 v 0 1 6 52u 3 a m 1s 6 g4m 0 m 7 8 9 8 a 1 c 9 g l i 5 j d m 3 n wd 3 3 r i 3 2 5 g 3",
    "1 5 c 3 1 5 3 3 1 5 1 3 9 r 1c a 8c 9 k r w 9 2 b i 9 8 c s 9 6 f 1 g 1 c 2g a 8 r n 7 4 8",
    "5 9 2 8 2z 9 2 b 1 g 2 b 2 c c f a b 1 c 3 f 1 h 1 j 2 f 6 g 2 j 6 k 2 n 5 k 4 m 3 q 2 r 2",
    "n 1 r 1 n 1 r 5 n 3 q l r 3 n 2 m 1 f 2 c 1 b 5 9 18 7 1 m 3 r a a 6 r 1k 8 8 r 1x 9 1 h 8",
    "r c 9 6 r s a 2 g 2 j 2c 9 b r 1 9 t a 3 r 26 a 1 r b a 4 r 2 a v f 1 r 1j 9 9 r e 9 2 r a",
    "9 2 r 4 9 s a 4 f 1v a o r 5 a n c a r 6 b 2 r 6 b 2 r 6 b 9 r 7 b 1 r 7 b 1 r 1c f 4 g 2 f",
    "2 k 4 m 4 r 28 g 1a a 2 r a a 6 r 8mc 1 c r n a 4 r 1d a 1l0 r 566 0 2 c 1n 5 3 a 2 r 2y 7",
    "12 r 7 0 c r 5 0 5 r 1 3 p 0 1 r 5 0 1 r 1 0 1 r 2 0 1 r 2 0 1 r 30 0 g b 1 n g r a5 0 g n",
    "1s 0 2 r 1i 0 7 r 1 n w 4 c 0 1 5 1 6 2 n g 5 a 7 6 r 4 0 3 9 7 f 2 g l 0 2 5 2 6 a 0 1 r j",
    "0 1 r 4 0 4 r 3 0 1 5 1 0 1 r 3r 0 2 r 1 0 1 r 2m 0 2 5 2m 0 3 r 6 0 2 r 6 0 2 r 6 0 2 r 3",
    "0 3 r 7 0 1 r 7 0 a r 3 3 1 2 3 0 c 6 1 r q 6 1 r j 6 1 r 2 6 1 r f 6 2 r e 6 y r 3f 6 5 r",
    "3 6 4 r 19 6 3 r 9 6 23 7 2 f 2 h 1 r c 9 1 m 3 r 1 f 1b r 1a 9 3m r t 9 3 r 1d 9 f r s f 4",
    "r v 4 1 f 4 4 9 r 3 i r 4 5 r 17 f 5 r u 6 1 r 1 6 10 7 4 r e 7 16 r 12 4 2 6 12 4 28 6 2 r",
    "a 6 6 r 10 h 4 r 10 h 4 r 14 f 8 r 1g f b r 1 f b n 1 r f n 1 r 7 n 1 r 2 n 1 r b n 1 r f n",
    "1 r 7 n 1 r 2 n 3 r 1g q c r 8n f 9 r m f a r 8 f o r 6 n 1 r 16 n 1 r 9 n 1x r 6 6 2 r 1 6",
    "1 r 18 6 1 r 2 6 3 r 1 6 2 r 1 6 m a 1 r 9 a 1r f 8 r 9 f 1c r j g 1 r 2 g 5 r 5 g q 8 2 a",
    "3 r 1 8 q 9 5 r 1 9 1s r 1k c 4 r 2 g 2 c g g 2 r 1a g 4 7 1 r 2 7 5 r 8 7 1 r 3 7 1 r r 7",
    "2 j 2 r 3 7 4 r 9 7 1 j 7 r 9 7 7 r w a w f w r 13 f 4 r c f 9 r 1i a 3 r t a 2 r r a 5 r 8",
    "a i f 7 r 4 f c r 7 f 28 r 21 a 1j r 1f g d r 1f g 7 r 6 g 14 j 8 r a j 6 r 12 q 3 r t q 8",
    "r 2 q 5s r v a 1 r 16 m 1 r 3 m 2 r 2 m g r 3 q 1j r 1 q 3 o 14 j 8 r 16 j m r q n 12 r s m",
    "k r n k 9 r 26 b 4 r u b 6 n 9 r 1 f 1u a 1 n a r 1 j 2 r p c 7 r a c 6 r 1h c 1 r e c 3 j",
    "1 m 8 r 13 f 9 r 21 c 4 g 1 f 2 m a c 1 f 5 g 1 r k f b r i f 1 r 17 f 1 h 3 o 1q r 7 g 1 r",
    "1 g 1 r 4 g 1 r f g 1 r b g 6 r 1n f 5 r a f 6 r 1 g 3 f 1 r 8 f 2 r 2 f 2 r m f 1 r 7 f 1",
    "r 2 f 1 r 5 f 1 r 1 j 9 f 2 r 2 f 2 r 3 f 2 r 1 g 6 r 1 f 5 r 7 f 2 r 7 f 3 r 5 f b r a q 1",
    "r 1 q 2 r 1 q 1 r 12 q 1 r a q 1 r 1 q 2 r 1 q 1 r 4 q 1 r a q 1 r 2 q 8 r 2 q t r 2i h 1 m",
    "1 h 1 r 1 h 1 j 1 k 2 m u r 20 f 8 r a f 4m r 1i f 2 r i f k g y r 1x f b r a f 6 r d h j r",
    "1k c 1 k 1 n 6 r a c 6 r k q s r q g 1 j 2 r f g 4 r g g 7 n 55 r 1o j 2s r 2b f c r 1 f 7",
    "m 2 r 1 m 2 r 8 m 1 r 2 m 1 r u m 1 r 2 m 2 r c m 9 r a m 1y r 8 k 2 r 1a k 2 r b k r r 20",
    "i 8 r 1g i 2 k n i 1 j 5 i d r g n 1l f 7 r a o 52 r y q e r a q 6 r 9 h 1 r 19 h 1 r e h a",
    "r t h 3 r w h 2 r m h 1 r e h 21 r 7 i 1 r 2 i 1 r 18 i 3 r 1 i 1 r 2 i 1 r 9 i 8 r a i 6 r",
    "6 j 1 r 2 j 1 r 11 j 1 r 2 j 1 r 6 j 7 r a j 8m r p j 7 r h o 1 r 15 o 3 r s o 1 q 2d r 1 m",
    "f r 1e k d r 1 k of 8 16 f 1 g 2u r 2r 8 c f 1 r 4 8 1 f b r 5g g 218 r 2r n d r tr a 1 o 9",
    "k t o a r 32z q 5 r g7 g 5a1 r 1m q 1c6 r ft b 7 r v f 1 r a f 4 r 2 f 27 n 1 r a n 6 r u f",
    "2 r 6 f a r 1y f a r a f 1 r 7 f 1 r l f 5 r j f c0 r 1m q 5i r 2j j 2t r 1x c 6 k 4 r 1 k",
    "1b c 9 k 7 r h c 1s r 1 h 1 i 2 k 1 m b r 2 m e r 4q5 h 5 j 6 k 8 r kz h df m 15 r 1 q 9 m",
    "6w7 r 4 n 1 r 7 n 1 r 2 n 1 r 2 b 7x i 4 n f r 1 o t r 3 k 2 r 1 o e r 4 k 8 r b0 i 1s4 r",
    "2z f 5 r d f 3 r 9 f 7 r a f 2 r 8 f 318 r 6y q 6 r c4 q 24 r 1a n 2 r n n 9 r 38 n 1o r 6u",
    "4 a r 13 4 2 r 1 9 50 4 b g 2 n l r 1y 7 3e r k o c r k j c r 2f 6 9 r i 8 7 j 3r r 2d 4 1",
    "r 1z 4 1 r 2 4 2 r 1 4 2 r 2 4 2 r 4 4 1 r c 4 1 r 1 4 1 r 4 4 1 6 2 4 1 r 1t 4 1 r 4 4 2 r",
    "8 4 1 r 7 4 1 r s 4 1 r 4 4 1 r 5 4 1 r 1 4 3 r 7 4 1 r 9e 4 2 7 2 r 82 4 2 8 2 r 1e 4 i4 g",
    "f r 5 g 1 r f g uo r v n 6 r 6 o 5x r 7 h 1 r h h 2 r 7 h 1 r 2 h 1 r 5 h 5 r 1q o x r 1 o",
    "34 r 19 k 3 r e k 2 r a k 4 r 2 k 8w r v n h r 1m k 5 r 1 k cw r 16 o 5y r 17 q 4 r 1 q dc",
    "r 7 n 1 r 4 n 1 r 2 n 1 r f n 1 r 5h f 2 r g f 15 r 23 h 1 k 4 r a h 4 r 2 h lt r 1w j 24 r",
    "1p k 5e r 4 c 1 r r c 1 r 2 c 1 r 1 c 2 r 1 c 1 r a c 1 r 4 c 1 r 1 c 1 r 1 c 6 r 1 c 4 r 1",
    "c 1 r 1 c 1 r 1 c 1 r 3 c 1 r 2 c 1 r 1 c 2 r 1 c 1 r 1 c 1 r 1 c 1 r 1 c 1 r 1 c 1 r 2 c 1",
    "r 1 c 2 r 4 c 1 r 7 c 1 r 4 c 1 r 4 c 1 r 1 c 1 r a c 1 r h c 5 r 3 c 1 r 5 c 1 r h c 1g r",
    "2 c 7i r 18 9 4 r 2s 9 c r f b 2 r e b 1 f 1 r f b 1 r f b m f a r b a 2 f 3 m v a 1 j 1 b",
    "1 a b b 1 a 1 b 1 a 2 b 1 a 3 b 1 a 3 b 5 a 8 b 1 a 7 b 1 a a b 2 c 1 k 3 m 9 b 1 a 1 b 2 a",
    "2 b 1 a a b 4 a 2 b 1 a a b i h 1 m 1k r q b 1 a 2 b d r y a 9 b 1 h 4 r 9 a 7 r 2 b e r 6",
    "i 4a r x b c f 3 g 6 b 1 f 1y b 1 f 2 g k b c f 11 b 1 f 5 b 4 f 5 g c f h b 7 f 8 g 1r b 1",
    "f 1 b 1 f 52 b 1 f 4 b 2 f 1 g 1q b 2 f 4 c 7 f 5 g o b i f 1 h 15 f 1 h 2e f 5 b 1 c g b 1",
    "c 3 b 1 c 1 b 1 c 1 b 1 c 1 b 1 c 3 b 1 c 6 b 2 c 4 b 1 c 1 b 2 c 4 b 1 c c b 2 f 2 g b b",
    "1c f 1y b a f 1 g 2 h 2 i 1 k 2 m 4 r 1 o 3 n d f 3 r 4 f 3 h 2 i 1 j 1 k 2 m 3 r 38 b 3 o",
    "4 r 5 o 2d f 4 j 1 o 6 r c k 4 r 1 n f r c f 4 r 1k f 8 r a f 6 r 14 f 8 r u f 2 r 2 m a q",
    "4 r 2 q 1q r c i 1 m 3 k 9 g 6 h 1 i 8 h 8 i 1 h 2 i c h 1 k c h 1 i 3 j f h d i 5 j 1 k 1",
    "m 4 j 2 m 1 n 1 j 1 k 4 j 5 g d h 6 i b j 2 m 6 k 3 m 2 k a j 6 k 1 g 2 j 8 k 1 m 1 n 3 k n",
    "i p j 2c k c r e j 2 r 4 k 1 m 3 o 3 k 2 n 3 r 3 k 4 m 2 o 1 q 5 r 1 q 6 k j m 4 n 3 o 7 m",
    "4 n 3 o 1 q 1 o 3 m 3 n 1 q 7 r 2 o 7 m 3 n 2 o 1 q 2 r 1 q 8 n 1 o 1 q 6 r 7 n 2 o 7 r 43",
    "m 1 r 1j m 11 q a m sk r 2 1 wyf 4 7 m 2 n w r 379 a 4 n 1 o 6 r 66 b 2 r 4g2 g e r 5rl i f",
    "r ha p 1wi r f2 4 15s r 2 1 3t7 m 5 r 38g o 17im r 2 1 1eke r 2 1 1eke r 2 1 1eke r 2 1",
    "1eke r 2 1 1eke r 2 1 1eke r 2 1 1eke r 2 1 1eke r 2 1 1eke r 2 1 1eke r 2 1 1 r 1 4 u r 2o",
    "4 3k r 6o 6 1e6m r 2t4y 1"]

/-- The characters of the version that goes by `name`. -/
def ofName? (name : String) : Option CharSet :=
  (names.findIdx? fun aliases => aliases.contains name).map fun place => runs.select (· ≤ place)

end Interception.Unicode.Age
