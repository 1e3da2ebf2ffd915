import Interception.Unicode.Table

/-!
# The scripts of a character

A character belongs to one script, or to none. Some characters are also used in other scripts, or
are common to all but used in few: their extensions say in which ones they are. A script is named
by a four-letter code or by a long name; the tables number the scripts by their place in
`Script.names`.
-/

namespace Interception.Unicode.Script

/-- The names of each script, in loose spelling. -/
def names : List (List String) := [
  ["adlm", "adlam"],
  ["ahom"],
  ["hluw", "anatolianhieroglyphs"],
  ["arab", "arabic"],
  ["armn", "armenian"],
  ["avst", "avestan"],
  ["bali", "balinese"],
  ["bamu", "bamum"],
  ["bass", "bassavah"],
  ["batk", "batak"],
  ["beng", "bengali"],
  ["bhks", "bhaiksuki"],
  ["bopo", "bopomofo"],
  ["brah", "brahmi"],
  ["brai", "braille"],
  ["bugi", "buginese"],
  ["buhd", "buhid"],
  ["cans", "canadianaboriginal"],
  ["cari", "carian"],
  ["aghb", "caucasianalbanian"],
  ["cakm", "chakma"],
  ["cham"],
  ["cher", "cherokee"],
  ["chrs", "chorasmian"],
  ["zyyy", "common"],
  ["copt", "coptic", "qaac"],
  ["xsux", "cuneiform"],
  ["cprt", "cypriot"],
  ["cpmn", "cyprominoan"],
  ["cyrl", "cyrillic"],
  ["dsrt", "deseret"],
  ["deva", "devanagari"],
  ["diak", "divesakuru"],
  ["dogr", "dogra"],
  ["dupl", "duployan"],
  ["egyp", "egyptianhieroglyphs"],
  ["elba", "elbasan"],
  ["elym", "elymaic"],
  ["ethi", "ethiopic"],
  ["gara", "garay"],
  ["geor", "georgian"],
  ["glag", "glagolitic"],
  ["goth", "gothic"],
  ["gran", "grantha"],
  ["grek", "greek"],
  ["gujr", "gujarati"],
  ["gong", "gunjalagondi"],
  ["guru", "gurmukhi"],
  ["gukh", "gurungkhema"],
  ["hani", "han"],
  ["hang", "hangul"],
  ["rohg", "hanifirohingya"],
  ["hano", "hanunoo"],
  ["hatr", "hatran"],
  ["hebr", "hebrew"],
  ["hira", "hiragana"],
  ["armi", "imperialaramaic"],
  ["zinh", "inherited", "qaai"],
  ["phli", "inscriptionalpahlavi"],
  ["prti", "inscriptionalparthian"],
  ["java", "javanese"],
  ["kthi", "kaithi"],
  ["knda", "kannada"],
  ["kana", "katakana"],
  ["kawi"],
  ["kali", "kayahli"],
  ["khar", "kharoshthi"],
  ["kits", "khitansmallscript"],
  ["khmr", "khmer"],
  ["khoj", "khojki"],
  ["sind", "khudawadi"],
  ["krai", "kiratrai"],
  ["laoo", "lao"],
  ["latn", "latin"],
  ["lepc", "lepcha"],
  ["limb", "limbu"],
  ["lina", "lineara"],
  ["linb", "linearb"],
  ["lisu"],
  ["lyci", "lycian"],
  ["lydi", "lydian"],
  ["mahj", "mahajani"],
  ["maka", "makasar"],
  ["mlym", "malayalam"],
  ["mand", "mandaic"],
  ["mani", "manichaean"],
  ["marc", "marchen"],
  ["gonm", "masaramgondi"],
  ["medf", "medefaidrin"],
  ["mtei", "meeteimayek"],
  ["mend", "mendekikakui"],
  ["merc", "meroiticcursive"],
  ["mero", "meroitichieroglyphs"],
  ["plrd", "miao"],
  ["modi"],
  ["mong", "mongolian"],
  ["mroo", "mro"],
  ["mult", "multani"],
  ["mymr", "myanmar"],
  ["nbat", "nabataean"],
  ["nagm", "nagmundari"],
  ["nand", "nandinagari"],
  ["talu", "newtailue"],
  ["newa"],
  ["nkoo", "nko"],
  ["nshu", "nushu"],
  ["hmnp", "nyiakengpuachuehmong"],
  ["ogam", "ogham"],
  ["olck", "olchiki"],
  ["onao", "olonal"],
  ["hung", "oldhungarian"],
  ["ital", "olditalic"],
  ["narb", "oldnortharabian"],
  ["perm", "oldpermic"],
  ["xpeo", "oldpersian"],
  ["sogo", "oldsogdian"],
  ["sarb", "oldsoutharabian"],
  ["orkh", "oldturkic"],
  ["ougr", "olduyghur"],
  ["orya", "oriya"],
  ["osge", "osage"],
  ["osma", "osmanya"],
  ["hmng", "pahawhhmong"],
  ["palm", "palmyrene"],
  ["pauc", "paucinhau"],
  ["phag", "phagspa"],
  ["phnx", "phoenician"],
  ["phlp", "psalterpahlavi"],
  ["rjng", "rejang"],
  ["runr", "runic"],
  ["samr", "samaritan"],
  ["saur", "saurashtra"],
  ["shrd", "sharada"],
  ["shaw", "shavian"],
  ["sidd", "siddham"],
  ["sgnw", "signwriting"],
  ["sinh", "sinhala"],
  ["sogd", "sogdian"],
  ["sora", "sorasompeng"],
  ["soyo", "soyombo"],
  ["sund", "sundanese"],
  ["sunu", "sunuwar"],
  ["sylo", "sylotinagri"],
  ["syrc", "syriac"],
  ["tglg", "tagalog"],
  ["tagb", "tagbanwa"],
  ["tale", "taile"],
  ["lana", "taitham"],
  ["tavt", "taiviet"],
  ["takr", "takri"],
  ["taml", "tamil"],
  ["tnsa", "tangsa"],
  ["tang", "tangut"],
  ["telu", "telugu"],
  ["thaa", "thaana"],
  ["thai"],
  ["tibt", "tibetan"],
  ["tfng", "tifinagh"],
  ["tirh", "tirhuta"],
  ["todr", "todhri"],
  ["toto"],
  ["tutg", "tulutigalari"],
  ["ugar", "ugaritic"],
  ["vaii", "vai"],
  ["vith", "vithkuqi"],
  ["wcho", "wancho"],
  ["wara", "warangciti"],
  ["yezi", "yezidi"],
  ["yiii", "yi"],
  ["zanb", "zanabazarsquare"]]

/-- Runs of code points of one script: how many, then the place in `names`. -/
def runs : Partition := .ofLines [
    "1t o q 21 6 o q 21 1b o 1 21 f o 1 21 5 o n 21 1 o v 21 1 o ch 21 13 o 5 21 5 o 2 c k o 34",
    "1l 4 18 1 o 3 18 2 4q 4 18 1 o 1 18 4 4q 1 18 1 o 1 18 1 o 3 18 1 4q 1 18 1 4q k 18 1 4q 1r",
    "18 e p g 18 3p t 2 1l 4p t 1 4q 12 4 2 4q 1e 4 2 4q 3 4 1 4q 1j 1i 8 4q r 1i 4 4q 6 1i b 4q",
    "5 3 1 o 6 3 1 o e 3 1 o 3 3 1 o w 3 1 o a 3 b 1l q 3 1 1l 30 3 1 o y 3 e 3z 1 4q 1o 3z 2 4q",
    "3 3z 1c 3 1e 4a e 4q 1n 2w 2 4q 3 2w 1a 3m 2 4q f 3m 1 4q s 2c 2 4q 1 2c 1 4q b 3z 5 4q v 3",
    "1 4q 2 3 5 4q 23 3 1 o t 3 29 v 4 1l f v 2 o q v 4 a 1 4q 8 a 2 4q 2 a 2 4q m a 1 4q 7 a 1",
    "4q 1 a 3 4q 4 a 2 4q 9 a 2 4q 2 a 2 4q 4 a 8 4q 1 a 4 4q 2 a 1 4q 5 a 2 4q p a 2 4q 3 1b 1",
    "4q 6 1b 4 4q 2 1b 2 4q m 1b 1 4q 7 1b 1 4q 2 1b 1 4q 2 1b 1 4q 2 1b 2 4q 1 1b 1 4q 5 1b 4",
    "4q 2 1b 2 4q 3 1b 3 4q 1 1b 7 4q 4 1b 1 4q 1 1b 7 4q h 1b a 4q 3 19 1 4q 9 19 1 4q 3 19 1",
    "4q m 19 1 4q 7 19 1 4q 2 19 1 4q 5 19 2 4q a 19 1 4q 3 19 1 4q 3 19 2 4q 1 19 f 4q 4 19 2",
    "4q c 19 7 4q 7 19 1 4q 3 3b 1 4q 8 3b 2 4q 2 3b 2 4q m 3b 1 4q 7 3b 1 4q 2 3b 1 4q 5 3b 2",
    "4q 9 3b 2 4q 2 3b 2 4q 3 3b 7 4q 3 3b 4 4q 2 3b 1 4q 5 3b 2 4q i 3b a 4q 2 46 1 4q 6 46 3",
    "4q 3 46 1 4q 4 46 3 4q 2 46 1 4q 1 46 1 4q 2 46 3 4q 2 46 3 4q 3 46 3 4q c 46 4 4q 5 46 3",
    "4q 3 46 1 4q 4 46 2 4q 1 46 6 4q 1 46 e 4q l 46 5 4q d 49 1 4q 3 49 1 4q n 49 1 4q g 49 2",
    "4q 9 49 1 4q 3 49 1 4q 4 49 7 4q 2 49 1 4q 3 49 2 4q 1 49 2 4q 4 49 2 4q a 49 7 4q 9 49 d",
    "1q 1 4q 3 1q 1 4q n 1q 1 4q a 1q 1 4q 5 1q 2 4q 9 1q 1 4q 3 1q 1 4q 4 1q 7 4q 2 1q 6 4q 2",
    "1q 1 4q 4 1q 2 4q a 1q 1 4q 3 1q c 4q d 2b 1 4q 3 2b 1 4q 1f 2b 1 4q 3 2b 1 4q 6 2b 4 4q g",
    "2b 2 4q q 2b 1 4q 3 3s 1 4q i 3s 3 4q o 3s 1 4q 9 3s 1 4q 1 3s 2 4q 7 3s 3 4q 1 3s 4 4q 6",
    "3s 1 4q 1 3s 1 4q 8 3s 6 4q a 3s 2 4q 3 3s c 4q 1m 4b 4 4q 1 o s 4b 11 4q 2 20 1 4q 1 20 1",
    "4q 5 20 1 4q o 20 1 4q 1 20 1 4q n 20 2 4q 5 20 1 4q 1 20 1 4q 7 20 1 4q a 20 2 4q 4 20 w",
    "4q 20 4c 1 4q 10 4c 4 4q 13 4c 1 4q 10 4c 1 4q f 4c 1 4q 7 4c 4 o 2 4c 11 4q 4g 2q 12 14 1",
    "4q 1 14 5 4q 1 14 2 4q 17 14 1 o 4 14 74 1e 21 12 1 4q 4 12 2 4q 7 12 1 4q 1 12 1 4q 4 12 2",
    "4q 15 12 1 4q 4 12 2 4q x 12 1 4q 4 12 2 4q 7 12 1 4q 1 12 1 4q 4 12 2 4q f 12 1 4q 1l 12 1",
    "4q 4 12 2 4q 1v 12 2 4q w 12 3 4q q 12 6 4q 2e m 2 4q 6 m 2 4q hs h t 2z 3 4q 23 3l 3 o b",
    "3l 7 4q m 40 9 4q 1 40 l 1g 2 o 9 4q k g c 4q d 41 1 4q 3 41 1 4q 2 41 c 4q 2m 1w 2 4q a 1w",
    "6 4q a 1w 6 4q 2 2n 2 o 1 2n 1 o k 2n 6 4q 2h 2n 7 4q 17 2n 5 4q 1y h a 4q v 23 1 4q c 23 4",
    "4q c 23 4 4q 1 23 3 4q c 23 u 42 2 4q 5 42 b 4q 18 2u 4 4q q 2u 6 4q b 2u 3 4q 2 2u w 1w s",
    "f 2 4q 2 f 1r 43 1 4q t 43 2 4q b 43 6 4q a 43 6 4q e 43 2 4q v 1l 1d 4q 25 6 1 4q 1e 6 1s",
    "3w 1g 9 8 4q 4 9 1k 22 3 4q f 22 3 4q 3 22 1c 30 b t 5 4q 17 14 2 4q 3 14 8 3w 8 4q 3 1l 1",
    "o d 1l 1 o 7 1l 4 o 1 1l 6 o 1 1l 3 o 2 1l 1 o 5 4q 12 21 5 18 1 t 1d 21 5 18 4 21 5 18 d",
    "21 1 t 1y 21 1 18 1s 1l 74 21 m 18 2 4q 6 18 2 4q 12 18 2 4q 6 18 2 4q 8 18 1 4q 1 18 1 4q",
    "1 18 1 4q 1 18 1 4q v 18 2 4q 1h 18 1 4q f 18 1 4q e 18 2 4q 6 18 1 4q j 18 2 4q 3 18 1 4q",
    "9 18 1 4q c o 2 1l 2f o 1 4q b o 1 21 2 4q b o 1 21 f o 1 4q d 21 3 4q x o f 4q x 1l f 4q",
    "12 o 1 18 3 o 2 21 6 o 1 21 r o 1 21 h o 15 21 3 o 4 4q ii o m 4q b o l 4q ps o 74 e hg o 2",
    "4q w o 1 4q 2x o 2o 15 w 21 38 p 5 4q 7 p 12 14 1 4q 1 14 5 4q 1 14 2 4q 1k 4d 7 4q 2 4d e",
    "4q 1 4d n 12 9 4q 7 12 1 4q 7 12 1 4q 7 12 1 4q 7 12 1 4q 7 12 1 4q 7 12 1 4q 7 12 1 4q 7",
    "12 1 4q w t 2m o y 4q q 1d 1 4q 2h 1d c 4q 5y 1d q 4q l o 1 1d 1 o 1 1d p o 9 1d 4 1l 2 1e",
    "8 o 4 1d 4 o 1 4q 2e 1j 2 4q 2 1l 2 o 3 1j 1 o 2i 1r 2 o 3 1r 5 4q 17 c 1 4q 2m 1e 1 4q g o",
    "w c 12 o 9 4q 1 o g 1r v 1e 1 4q 1s o v 1e 29 o 1b 1r 1 o 2g 1r 4o o 534 1d 1s o g74 1d wd",
    "4o 3 4q 1j 4o 9 4q 1c 26 8c 4j k 4q 2o t 2g 7 8 4q y o 2u 21 3 o 1v 21 2 4q 2 21 1 4q 1 21",
    "1 4q 8 21 l 4q e 21 19 3y 3 4q a o 6 4q 1k 3h 8 4q 1y 3n 8 4q c 3n 6 4q w v 1a 1t 1 o 1 1t",
    "10 3k b 4q 1 3k t 1e 3 4q 26 1o 1 4q 1 o a 1o 4 4q 2 1o v 2q 1 4q 1j l 9 4q e l 2 4q a l 2",
    "4q 4 l w 2q 1v 44 o 4q 5 44 n 2h a 4q 6 12 2 4q 6 12 2 4q 6 12 9 4q 7 12 1 4q 7 12 1 4q 17",
    "21 1 o 9 21 1 18 4 21 2 o 4 4q 28 m 1a 2h 2 4q a 2h 6 4q 8mc 1e c 4q n 1e 4 4q 1d 1e 6is 4q",
    "a6 1d 2 4q 2y 1d 12 4q 7 21 c 4q 5 4 5 4q q 1i 1 4q 5 1i 1 4q 1 1i 1 4q 2 1i 1 4q 2 1i 1 4q",
    "a 1i 37 3 g 4q a3 3 2 o 28 3 2 4q 1i 3 7 4q 1 3 w 4q g 3 g 1l a o 6 4q e 1l 2 t z o 1 4q j",
    "o 1 4q 4 o 4 4q 5 3 1 4q 3r 3 2 4q 1 o 1 4q w o q 21 6 o q 21 b o a 1r 1 o 19 1r 2 o v 1e 3",
    "4q 6 1e 2 4q 6 1e 2 4q 6 1e 2 4q 3 1e 3 4q 7 o 1 4q 7 o a 4q 5 o 2 4q c 25 1 4q q 25 1 4q j",
    "25 1 4q 2 25 1 4q f 25 2 4q e 25 y 4q 3f 25 5 4q 3 o 4 4q 19 o 3 4q 9 o 27 18 1 4q d o 3 4q",
    "1 18 1b 4q 19 o 1 1l 3m 4q t 27 3 4q 1d i f 4q 1 1l r o 4 4q 10 33 9 4q 3 33 r 16 5 4q 17",
    "35 5 4q u 4i 1 4q 1 4i 10 36 4 4q e 36 16 4q 28 u 1c 3p u 3d 2 4q a 3d 6 4q 10 3c 4 4q 10",
    "3c 4 4q 14 10 8 4q 1g j b 4q 1 j b 4k 1 4q f 4k 1 4q 7 4k 1 4q 2 4k 1 4q b 4k 1 4q f 4k 1",
    "4q 7 4k 1 4q 2 4k 3 4q 1g 4f c 4q 8n 24 9 4q m 24 a 4q 8 24 o 4q 6 21 1 4q 16 21 1 4q 9 21",
    "1x 4q 6 r 2 4q 1 r 1 4q 18 r 1 4q 2 r 3 4q 1 r 2 4q 1 r m 1k 1 4q 9 1k w 3f v 2r 8 4q 9 2r",
    "1c 4q j 1h 1 4q 2 1h 5 4q 5 1h s 3i 3 4q 1 3i q 28 5 4q 1 28 1s 4q w 2k o 2j 4 4q k 2j 2 4q",
    "1a 2j 4 1u 1 4q 2 1u 5 4q 8 1u 1 4q 3 1u 1 4q t 1u 2 4q 3 1u 4 4q a 1u 7 4q 9 1u 7 4q w 38",
    "w 34 w 4q 13 2d 4 4q c 2d 9 4q 1i 5 3 4q 7 5 m 1n 2 4q 8 1n j 1m 5 4q 8 1m i 3j 7 4q 4 3j c",
    "4q 7 3j 28 4q 21 39 1j 4q 1f 32 d 4q 1f 32 7 4q 6 32 14 1f 8 4q a 1f 6 4q 12 13 3 4q t 13 8",
    "4q 2 13 5s 4q v 3 1 4q 16 4n 1 4q 3 4n 2 4q 2 4n g 4q 3 3 1j 4q 4 3 14 37 8 4q 16 3t m 4q q",
    "3a 12 4q s n k 4q n 11 9 4q 26 d 4 4q 10 d 9 4q 1 d 1v 1p a 4q 1 1p 2 4q p 3u 7 4q a 3u 6",
    "4q 1h k 1 4q i k 8 4q 13 29 9 4q 2o 3o 1 4q k 3s b 4q i 1x 1 4q 1b 1x 1q 4q 7 2p 1 4q 1 2p",
    "1 4q 4 2p 1 4q f 2p 1 4q b 2p 6 4q 1n 1y 5 4q a 1y 6 4q 4 17 1 4q 8 17 2 4q 2 17 2 4q m 17",
    "1 4q 7 17 1 4q 2 17 1 4q 5 17 1 4q 1 1l 9 17 2 4q 2 17 2 4q 3 17 2 4q 1 17 6 4q 1 17 5 4q 7",
    "17 2 4q 7 17 3 4q 5 17 b 4q a 4h 1 4q 1 4h 2 4q 1 4h 1 4q 12 4h 1 4q a 4h 1 4q 1 4h 2 4q 1",
    "4h 1 4q 4 4h 1 4q a 4h 1 4q 2 4h 8 4q 2 4h t 4q 2k 2v 1 4q 5 2v u 4q 20 4e 8 4q a 4e 4m 4q",
    "1i 3q 2 4q 12 3q y 4q 1x 2m b 4q a 2m 6 4q d 2n j 4q 1m 45 6 4q a 45 6 4q k 2q s 4q r 1 2",
    "4q f 1 4 4q n 1 55 4q 1o x 2s 4q 2b 4m c 4q 1 4m 7 w 2 4q 1 w 2 4q 8 w 1 4q 2 w 1 4q u w 1",
    "4q 2 w 2 4q c w 9 4q a w 1y 4q 8 2t 2 4q 1a 2t 2 4q b 2t r 4q 20 4p 8 4q 2b 3v d 4q g h 1l",
    "3g 7 4q a v 52 4q y 3x e 4q a 3x 6 4q 9 b 1 4q 19 b 1 4q e b a 4q t b 3 4q w 2e 2 4q m 2e 1",
    "4q e 2e 21 4q 7 2f 1 4q 2 2f 1 4q 18 2f 3 4q 1 2f 1 4q 2 2f 1 4q 9 2f 8 4q a 2f 6 4q 6 1a 1",
    "4q 2 1a 1 4q 11 1a 1 4q 2 1a 1 4q 6 1a 7 4q a 1a 8m 4q p 2a 7 4q h 1s 1 4q 15 1s 3 4q t 1s",
    "2d 4q 1 26 f 4q 1e 46 d 4q 1 46 pm q 2u 4q 33 q 1 4q 5 q b 4q 5g q 218 4q 2r s d 4q uu z a",
    "4q 32z z 5 4q g7 2 5a1 4q 1m 1c 1c6 4q ft 7 7 4q v 2o 1 4q a 2o 4 4q 2 2o 27 47 1 4q a 47 6",
    "4q u 8 2 4q 6 8 a 4q 1y 3e a 4q a 3e 1 4q 7 3e 1 4q l 3e 5 4q j 3e c0 4q 1m 1z 5i 4q 2j 2g",
    "2t 4q 23 2l 4 4q 1l 2l 7 4q h 2l 1s 4q 1 48 1 2x 2 1d 1 1v b 4q 2 1d e 4q 4qg 48 8 4q lc 48",
    "d2 1v 15 4q 1 1v 9 48 6w7 4q 4 1r 1 4q 7 1r 1 4q 2 1r 1 4q 1 1r 7z 1j 3 1r f 4q 1 1j t 4q 3",
    "1j 2 4q 1 1r e 4q 4 1r 8 4q b0 2x 1s4 4q 2z y 5 4q d y 3 4q 9 y 7 4q a y 2 4q 4 y 4 o 318",
    "4q 6y o 6 4q c4 o 24 4q 1a 1l 2 4q n 1l 9 4q 38 o 1o 4q 6u o a 4q 13 o 2 4q 1q o 3 1l h o 8",
    "1l 2 o 7 1l u o 4 1l 1p o l 4q 1y 18 3e 4q k o c 4q k o c 4q 2f o 9 4q p o 3r 4q 2d o 1 4q",
    "1z o 1 4q 2 o 2 4q 1 o 2 4q 2 o 2 4q 4 o 1 4q c o 1 4q 1 o 1 4q 7 o 1 4q 1t o 1 4q 4 o 2 4q",
    "8 o 1 4q 7 o 1 4q s o 1 4q 4 o 1 4q 5 o 1 4q 1 o 3 4q 7 o 1 4q 9g o 2 4q 84 o 2 4q 1e o i4",
    "3r f 4q 5 3r 1 4q f 3r uo 4q v 21 6 4q 6 21 5x 4q 7 15 1 4q h 15 2 4q 7 15 1 4q 2 15 1 4q 5",
    "15 5 4q 1q t x 4q 1 t 34 4q 19 2y 3 4q e 2y 2 4q a 2y 4 4q 2 2y 8w 4q v 4g h 4q 1m 4l 5 4q",
    "1 4l cw 4q 16 2s 5y 4q 17 31 4 4q 1 31 dc 4q 7 12 1 4q 4 12 1 4q 2 12 1 4q f 12 1 4q 5h 2i",
    "2 4q g 2i 15 4q 24 0 4 4q a 0 4 4q 2 0 lt 4q 1w o 24 4q 1p o 5e 4q 4 3 1 4q r 3 1 4q 2 3 1",
    "4q 1 3 2 4q 1 3 1 4q a 3 1 4q 4 3 1 4q 1 3 1 4q 1 3 6 4q 1 3 4 4q 1 3 1 4q 1 3 1 4q 1 3 1",
    "4q 3 3 1 4q 2 3 1 4q 1 3 2 4q 1 3 1 4q 1 3 1 4q 1 3 1 4q 1 3 1 4q 1 3 1 4q 2 3 1 4q 1 3 2",
    "4q 4 3 1 4q 7 3 1 4q 4 3 1 4q 4 3 1 4q 1 3 1 4q a 3 1 4q h 3 5 4q 3 3 1 4q 5 3 1 4q h 3 1g",
    "4q 2 3 7i 4q 18 o 4 4q 2s o c 4q f o 2 4q f o 1 4q f o 1 4q 11 o a 4q 4u o 1k 4q q o 1 1j 2",
    "o d 4q 18 o 4 4q 9 o 7 4q 2 o e 4q 6 o 4a 4q rc o 4 4q h o 3 4q d o 3 4q 3b o 4 4q 2n o 6",
    "4q c o 4 4q 1 o f 4q c o 4 4q 1k o 8 4q a o 6 4q 14 o 8 4q u o 2 4q c o 4 4q 2 o 1q 4q 9g o",
    "c 4q e o 2 4q d o 3 4q a o 5 4q 1k o 7 4q f o 2 4q b o 6 4q 9 o 7 4q 43 o 1 4q 2u o sm 4q",
    "wyo 1d w 4q 37e 1d 6 4q 66 1d 2 4q 4g2 1d e 4q 5rl 1d f 4q ha 1d 1wi 4q f2 1d 15u 4q 3t7 1d",
    "5 4q 38g 1d f975 4q 1 o u 4q 2o o 3k 4q 6o 1l 47bk 4q"]

/-- The rows of scripts that extensions are made of, by places in `names`. -/
def rows : List (List Nat) := [
  [5, 18, 25, 34, 36, 40, 41, 42, 44, 46, 49, 73, 80, 81, 113, 133],
  [10, 29, 31, 73, 78, 155, 160], [12, 73], [73, 78], [73, 155],
  [22, 25, 29, 44, 73, 113, 141, 146], [22, 29, 44, 73, 120, 141, 146, 159], [22, 29, 73, 157],
  [41, 73, 141, 143, 155], [19, 22, 25, 29, 42, 44, 73, 120, 143, 157, 159],
  [25, 36, 41, 42, 63, 73], [29, 44, 73, 113, 157], [25, 34, 54, 73, 113, 143, 146, 157, 159],
  [4, 29, 34, 42, 44, 54, 73, 113, 143, 146, 157], [73, 157], [34, 73, 143], [22, 29, 73, 120],
  [22, 73, 146], [73, 141], [38, 73], [29, 73, 159], [44, 73, 113, 159],
  [22, 34, 63, 73, 143, 157], [22, 34, 73, 143], [73, 143], [73, 141, 143], [22, 73, 143],
  [19, 22, 42, 73, 141, 143, 155], [44], [73, 120], [19, 73, 159], [73], [25, 44], [29, 113],
  [29, 41], [29, 73], [4, 40, 41], [3, 39, 51, 104, 143, 154, 167], [3, 143, 154],
  [0, 3, 39, 51, 104, 143, 154, 167], [0, 3, 51, 84, 85, 118, 127, 137, 143], [3, 143],
  [3, 154, 167], [3, 51], [10, 31, 43, 45, 47, 62, 73, 83, 101, 103, 119, 132, 150, 153, 158],
  [10, 31, 43, 45, 47, 62, 73, 83, 103, 119, 150, 153, 158],
  [10, 31, 33, 43, 45, 46, 47, 62, 70, 81, 83, 87, 101, 109, 119, 136, 142, 149, 150, 153, 158],
  [10, 31, 33, 43, 45, 46, 47, 48, 62, 70, 75, 81, 83, 87, 101, 109, 119, 136, 142, 149, 150, 153,
    158],
  [31, 33, 61, 81], [10, 20, 142], [47, 97], [45, 69], [43, 150], [62, 101, 161], [20, 98, 146],
  [40, 41, 73], [129], [16, 52, 144, 145], [95, 125], [10, 31, 43, 62], [31], [31, 43, 62],
  [10, 31, 103, 153, 158], [10, 31, 153], [31, 103, 132], [10, 31, 103, 153], [31, 132],
  [31, 62, 83, 119, 150, 153], [10, 31], [31, 103, 158], [31, 101, 103], [10, 31, 132], [31, 103],
  [10, 31, 103, 132], [10, 31, 43, 62, 83, 101, 119, 136, 153, 158, 161], [31, 43],
  [31, 43, 62, 161], [10], [101], [29, 73, 143], [143], [73, 95, 125], [0, 3],
  [18, 40, 41, 79, 110, 117], [18, 44, 92, 110], [31, 43, 73], [25, 73], [5, 117],
  [5, 18, 40, 61, 80, 110, 130], [34], [0, 3, 110], [49, 152], [12, 49, 50, 55, 63, 95, 168],
  [12, 49, 50, 55, 63, 95, 125, 168], [12, 49, 50, 55, 63], [49],
  [12, 49, 50, 55, 63, 95, 156, 168], [12, 49, 50, 55, 63, 78, 95, 156, 168],
  [12, 49, 50, 55, 63, 168], [12, 49], [55, 63], [49, 55, 63], [49, 73],
  [31, 33, 45, 47, 61, 62, 69, 70, 81, 83, 94, 101, 132, 149, 158, 161],
  [31, 33, 45, 47, 61, 62, 69, 70, 81, 94, 101, 132, 149, 158, 161],
  [31, 33, 45, 47, 61, 69, 70, 81, 94, 149, 158],
  [31, 33, 45, 47, 61, 69, 70, 81, 94, 132, 149, 158], [10, 31, 161], [31, 150], [65, 73, 98],
  [15, 60], [3, 104], [3, 154], [27, 28, 77], [27, 77], [27, 76, 77], [3, 25], [85, 118]]

/-- Runs of code points with the same extensions: how many, then nothing for those that are used
in their own script alone, or else the place of the row in `rows`, counted from one. -/
def extensionRuns : Partition := .ofLines [
    "53 0 1 1 ec 0 1 2 a 0 1 3 1 0 3 3 1 0 1 4 9 0 1 5 1 0 1 3 12 0 1 6 1 7 1 8 1 9 1 a 1 b 1 c",
    "1 d 1 e 1 f 1 g 1 h 1 i 1 j 1 k 1 0 1 j 1 l 1 0 1 m f 0 1 n 1 o 1 p 7 0 1 q 1 p 1 0 1 r 1 s",
    "g 0 1 t 2 0 1 t i 0 1 u 5 0 1 v 4 0 d w 4 0 2 x 7h 0 1 y 1 z 2 10 1 z 75 0 1 11 3m 0 1 12 e",
    "0 1 12 1 13 2 0 1 14 w 0 1 15 a 0 b 16 a 0 a 17 6 0 1 16 2r 0 1 18 ho 0 1 19 1 1a h 0 1 1b",
    "1 1c a 1d 3a 0 a 1e 3a 0 a 1f 3a 0 a 1g 6u 0 e 1h 6q 0 a 1i nk 0 a 1j 4x 0 1 1k 167 0 3 1l",
    "1z 0 2 1m 5n 0 2 1n 1 0 1 1n y2 0 1 1o 1 1p 1 1o 1 1q 1 1p 1 1r 1 1s 1 1t 1 1u 1 1v 1 1w 1",
    "1p 2 1v 2 1p 1 1v 1 1x 1 1y 6 1p 1 1z 1 20 1 21 1 1p 1 22 4 1p 1 23 1 24 1 25 2 1x 1 26 2",
    "24 1 27 5h 0 2 t 1i 0 1 28 1 0 1 29 fo 0 1 2a v 0 1 2b a 0 1 2c 2 0 1 2d 42 0 1 2e 2li 0 1",
    "2f o 0 1 2g 1 2h a 0 1 2i 4 0 1 2j 1 0 1 z bw 0 g 2k 1 0 1 2l 1 2m 1 2n 2 0 1 2o 1 0 2 2p 2",
    "2q 6 2r 1 0 1 2n 8 2r 4 2n a 0 4 2s 2 0 1 2n 5 2t 1 0 1 2n 4 0 2 2u 2 2o 2h 0 4 2t 3 0 1 2t",
    "2i 0 1 2r 1 2t 43 0 g 2o w 0 12 2o 9 0 1 2k 1c 0 14 2o 1k 0 1d 2o f 0 c 2o 1f 0 1 2o 2g 0 p",
    "2o a 0 5 2o 2o 0 v 2o mls 0 1 z 40 0 8 2v 88 0 3 2w 3 2x 2 2y 1 2z 1 2y 53 0 1 30 1 0 1 31",
    "1m 0 1 32 4g 0 1 33 gha 0 2 34 4y 0 1 35 a 0 1 35 1z 0 2 2n 7u 0 5 2r a 0 1 2t 19 0 2 2t 9s",
    "0 2 36 1 37 4 0 19 38 3 0 9 37 bk 0 s 39 1km 0 1 3a 1la 0 1 1h 1 0 1 1h 1j 0 2 1h 2hf 0 2",
    "1h 1 0 1 1h uz0 0 4 2i 4ho 0 i 2o 63i 0 2 2o l57y 0"]

/-- The place in `names` of the script that goes by `name`, a name in loose spelling. -/
def place? (name : String) : Option Nat := names.findIdx? fun aliases => aliases.contains name

/-- The characters that belong to a script. -/
def members (place : Nat) : CharSet := runs.select (· == place)

/-- The characters that are used in a script: those it shares with others, and those that belong
to it and have no extensions. -/
def users (place : Nat) : CharSet :=
  let shared := extensionRuns.select fun row =>
    row != 0 && (rows.getD (row - 1) []).contains place
  shared.union ((members place).inter (extensionRuns.select (· == 0)))

end Interception.Unicode.Script
