/-
Where text may be broken. The rules for graphemes, words and sentences tell
characters apart by the classes that stand here, one table for each of the
three with the names a pattern may use. The classes of a table are disjoint.
-/
import SeriesQuery.Regex.CharClass

namespace SeriesQuery.Regex

open Unicode CharClass

def scriptClass (name : String) : CharClass := ((script? name).map script).getD nothing

def regionalIndicators : CharClass := codes .regionalIndicator

/-! ## Graphemes -/

namespace GraphemeBreak

def extend : CharClass := union (codes .graphemeExtend) (codes .emojiModifier)

def control : CharClass :=
  without
    (union (ofCategories [.zl, .zp, .cc, .cf])
      (intersection (ofCategories [.cn]) (codes .defaultIgnorableCodePoint)))
    [ofCodes "A D 200C-200D", codes .prependedConcatenationMark, extend]

def spacingMark : CharClass :=
  union (ofCodes "E33 EB3") <|
    without (ofCategories [.mc])
      [codes .graphemeExtend,
       ofCodes
         "102B-102C 1038 1062-1064 1067-106D 1083 1087-108C 108F 109A-109C 1A61 1A63-1A64 AA7B AA7D
          11720-11721"]

/-- Signs that open a cluster. -/
def opener : CharClass :=
  union (codes .prependedConcatenationMark)
    (ofCodes "D4E 111C2-111C3 113D1 1193F 11941 11A3A 11A84-11A89 11D46 11F02")

def syllables : CharClass := range 0xAC00 0xD7A3

/-- The Hangul syllables without a final consonant: one in twenty-eight. -/
def openSyllables : CharClass :=
  codes ⟨[], (List.range 399).map fun i => (0xAC00 + 28 * i, 0xAC00 + 28 * i), []⟩

end GraphemeBreak

open GraphemeBreak in
def graphemeBreaks : List (List String × CharClass) :=
  [(["control", "cn"], control), (["cr"], ofCodes "D"), (["extend", "ex"], extend),
   (["l"], ofCodes "1100-115F A960-A97C"), (["lf"], ofCodes "A"), (["lv"], openSyllables),
   (["lvt"], difference syllables openSyllables), (["prepend", "pp"], opener),
   (["regionalindicator", "ri"], regionalIndicators), (["spacingmark", "sm"], spacingMark),
   (["t"], ofCodes "11A8-11FF D7CB-D7FB"),
   (["v"], ofCodes "1160-11A7 D7B0-D7C6 16D63 16D67-16D6A"), (["zwj"], ofCodes "200D")]

/-! ## Words -/

namespace WordBreak

/-- Signs before a number, which count as a part of it. -/
def numberSigns : CharClass := difference (codes .prependedConcatenationMark) (ofCodes "70F")

def extend : CharClass :=
  anyOf [codes .graphemeExtend, ofCategories [.mc], codes .emojiModifier]

def format : CharClass :=
  without (ofCategories [.cf])
    [ofCodes "200B-200D", codes .prependedConcatenationMark, extend]

def numeric : CharClass := anyOf [ofCategories [.nd], ofCodes "66B 19DA", numberSigns]

def hebrewLetter : CharClass := intersection (scriptClass "hebrew") (ofCategories [.lo])

def katakana : CharClass :=
  union (scriptClass "katakana") (ofCodes "3031-3035 309B-309C 30A0 30FC FF70")

/-- Letters of scripts that are written without blanks between the words. -/
def unspaced : CharClass :=
  ofCodes
    "E01-E30 E32-E33 E40-E46 E81-E82 E84 E86-E8A E8C-EA3 EA5 EA7-EB0 EB2-EB3 EBD EC0-EC4 EC6
     EDC-EDF 1000-102A 103F 1050-1055 105A-105D 1061 1065-1066 106E-1070 1075-1081 108E 1780-17B3
     17D7 17DC 1950-196D 1970-1974 1980-19AB 19B0-19C9 1A20-1A54 1AA7 A9E0-A9E4 A9E6-A9EF A9FA-A9FE
     AA60-AA76 AA7A AA7E-AAAF AAB1 AAB5-AAB6 AAB9-AABD AAC0 AAC2 AADB-AADD 11700-1171A 11740-11746"

def letter : CharClass :=
  union
    (without (codes .alphabetic)
      [codes .ideographic, katakana, unspaced, scriptClass "hiragana", extend, hebrewLetter])
    (ofCodes
      "B8 2C2-2C5 2D2-2D7 2DE-2DF 2E5-2EB 2ED 2EF-2FF 55A-55C 55E 58A 5F3 70F A708-A716 A720-A721
       A789-A78A AB5B")

end WordBreak

open WordBreak in
def wordBreaks : List (List String × CharClass) :=
  [(["aletter", "le"], letter), (["cr"], ofCodes "D"), (["doublequote", "dq"], ofCodes "22"),
   (["extend"], extend), (["extendnumlet", "ex"], union (ofCategories [.pc]) (ofCodes "202F")),
   (["format", "fo"], format), (["hebrewletter", "hl"], hebrewLetter),
   (["katakana", "ka"], katakana), (["lf"], ofCodes "A"),
   (["midletter", "ml"], ofCodes "3A B7 387 55F 5F4 2027 FE13 FE55 FF1A"),
   (["midnum", "mn"],
    ofCodes "2C 3B 37E 589 60C-60D 66C 7F8 2044 FE10 FE14 FE50 FE54 FF0C FF1B"),
   (["midnumlet", "mb"], ofCodes "2E 2018-2019 2024 FE52 FF07 FF0E"),
   (["newline", "nl"], ofCodes "B-C 85 2028-2029"), (["numeric", "nu"], numeric),
   (["regionalindicator", "ri"], regionalIndicators), (["singlequote", "sq"], ofCodes "27"),
   (["wsegspace"], ofCodes "20 1680 2000-2006 2008-200A 205F 3000"), (["zwj"], ofCodes "200D")]

/-! ## Sentences -/

namespace SentenceBreak

def extend : CharClass :=
  anyOf [codes .graphemeExtend, ofCategories [.mc], ofCodes "200D"]

def format : CharClass :=
  without (ofCategories [.cf]) [ofCodes "200C-200D", WordBreak.numberSigns, extend]

def separator : CharClass := ofCodes "85 2028-2029"

def blank : CharClass := without (codes .whiteSpace) [separator, ofCodes "A D"]

/-- Small letters, but the Georgian ones: sentences do not tell their two cases apart. -/
def lower : CharClass :=
  without (codes .lowercase) [codes .graphemeExtend, ofCodes "10D0-10FA 10FD-10FF"]

def upper : CharClass :=
  difference (union (codes .uppercase) (ofCategories [.lt])) (ofCodes "1C90-1CBA 1CBD-1CBF")

/-- Letters without case. -/
def letter : CharClass :=
  without (union (codes .alphabetic) (ofCodes "5F3")) [lower, upper, extend]

/-- Full stops, which do not always end a sentence. -/
def stop : CharClass := ofCodes "2E 2024 FE52 FF0E"

/-- Brackets and quotation marks. -/
def closing : CharClass :=
  union (ofCategories [.ps, .pe, .pi, .pf])
    (ofCodes "22 27 275B-2760 2E00-2E01 2E06-2E08 2E0B 1F676-1F678")

/-- Marks after which a sentence goes on. -/
def continuing : CharClass :=
  ofCodes
    "2C-2D 3A-3B 37E 55D 60C-60D 7F8 1802 1808 2013-2014 3001 FE10-FE11 FE13-FE14 FE31-FE32
     FE50-FE51 FE54-FE55 FE58 FE63 FF0C-FF0D FF1A-FF1B FF64"

end SentenceBreak

open SentenceBreak in
def sentenceBreaks : List (List String × CharClass) :=
  [(["aterm", "at"], stop), (["close", "cl"], closing), (["cr"], ofCodes "D"),
   (["extend", "ex"], extend), (["format", "fo"], format), (["lf"], ofCodes "A"),
   (["lower", "lo"], lower), (["numeric", "nu"], union WordBreak.numeric (ofCodes "66C")),
   (["oletter", "le"], letter), (["scontinue", "sc"], continuing), (["sep", "se"], separator),
   (["sp"], blank), (["sterm", "st"], difference (codes .sentenceTerminal) stop),
   (["upper", "up"], upper)]

end SeriesQuery.Regex
