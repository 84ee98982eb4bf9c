import OpPolicy.Pattern.Property
import OpPolicy.Text.Age

set_option autoImplicit false

/-!
Classes of characters by which texts are cut into what readers take for characters, into words and
into sentences.
-/

namespace OpPolicy.Property

open CharSet Text.GeneralCategory Text.PropertyTable

def returnSign : CharSet := single '\r'

def lineFeed : CharSet := single '\n'

def joiner : CharSet := single '\u200D'

/-- The hangul syllables of two letters are the first of each row of 28, the others have three. -/
def openSyllables : CharSet :=
  listed ((List.range 399).map fun row => (0xAC00 + 28 * row, 0xAC00 + 28 * row))

def syllables : CharSet := ofTable "AC00-D7A3"

/-- Characters that go with the next one. -/
def leading : CharSet :=
  ofTable "600-605 6DD 70F 890-891 8E2 D4E 110BD 110CD 111C2-111C3 113D1 1193F 11941 11A3A
11A84-11A89 11D46 11F02"

def extendingSigns : CharSet := union extending skinTones

/-- The classes of characters in clusters, each with its names. -/
def clusterClasses : List (List String × CharSet) :=
  [(["cn", "control"],
      difference
        (unions [categories [lineSeparator, paragraphSeparator, control, format],
          intersection (category unassigned) (ofTable ignorable)])
        (unions [returnSign, lineFeed, joiner, leading, extending])),
    (["cr"], returnSign),
    (["ex", "extend"], extendingSigns),
    (["l"], ofTable "1100-115F A960-A97C"),
    (["lf"], lineFeed),
    (["lv"], openSyllables),
    (["lvt"], difference syllables openSyllables),
    (["pp", "prepend"], leading),
    (["ri", "regionalindicator"], flags),
    (["sm", "spacingmark"],
      difference (union (category spacingMark) (ofTable "E33 EB3"))
        (union extendingSigns
          (ofTable "102B-102C 1038 1062-1064 1067-106D 1083 1087-108C 108F 109A-109C 1A61 1A63-1A64
AA7B AA7D 11720-11721"))),
    (["t"], ofTable "11A8-11FF D7CB-D7FB"),
    (["v"], ofTable "1160-11A7 D7B0-D7C6 16D63 16D67-16D6A"),
    (["zwj"], joiner)]

def katakana : CharSet :=
  union (script "Kana") (ofTable "3031-3035 309B-309C 30A0 30FC FF70")

def hebrewLetters : CharSet := intersection (script "Hebr") (category otherLetter)

/-- Marks and signs that go with the character before them in a word. -/
def wordMarks : CharSet := union extendingSigns (category spacingMark)

/-- Letters of languages that put no blanks between words. -/
def unspacedLetters : CharSet :=
  ofTable "E01-E30 E32-E33 E40-E46 E81-E82 E84 E86-E8A E8C-EA3 EA5 EA7-EB0 EB2-EB3 EBD EC0-EC4 EC6
EDC-EDF 1000-102A 103F 1050-1055 105A-105D 1061 1065-1066 106E-1070 1075-1081 108E 1780-17B3 17D7
17DC 1950-196D 1970-1974 1980-19AB 19B0-19C9 1A20-1A54 1AA7 A9E0-A9E4 A9E6-A9EF A9FA-A9FE AA60-AA76
AA7A AA7E-AAAF AAB1 AAB5-AAB6 AAB9-AABD AAC0 AAC2 AADB-AADD 11700-1171A 11740-11746"

/-- Signs that are parts of words as letters are. -/
def wordSigns : CharSet :=
  ofTable "2C2-2C5 2D2-2D7 2DE-2DF 2E5-2EB 2ED 2EF-2FF 55A-55C 55E 58A 5F3 303C A708-A716 A720-A721
A789-A78A AB5B"

/-- The classes of characters in words, each with its names. -/
def wordClasses : List (List String × CharSet) :=
  [(["le", "aletter"],
      union wordSigns
        (difference alphabetic
          (unions [ideographs, katakana, script "Hira", wordMarks, hebrewLetters,
            unspacedLetters]))),
    (["cr"], returnSign),
    (["dq", "doublequote"], single '\x22'),
    (["extend"], wordMarks),
    (["ex", "extendnumlet"], union (category connectorPunctuation) (single '\u202F')),
    (["fo", "format"],
      difference (category format) (unions [range '\u200B' '\u200D', extending])),
    (["hl", "hebrewletter"], hebrewLetters),
    (["ka", "katakana"], katakana),
    (["lf"], lineFeed),
    (["ml", "midletter"], ofTable "3A B7 387 55F 5F4 2027 FE13 FE55 FF1A"),
    (["mn", "midnum"],
      ofTable "2C 3B 37E 589 60C-60D 66C 7F8 2044 FE10 FE14 FE50 FE54 FF0C FF1B"),
    (["mb", "midnumlet"], ofTable "2E 2018-2019 2024 FE52 FF07 FF0E"),
    (["nl", "newline"], ofTable "B-C 85 2028-2029"),
    (["nu", "numeric"], union digits (single '\u066B')),
    (["ri", "regionalindicator"], flags),
    (["sq", "singlequote"], single '\x27'),
    (["wsegspace"], difference (category spaceSeparator) (ofTable "A0 2007 202F")),
    (["zwj"], joiner)]

def sentenceMarks : CharSet := unions [extending, category spacingMark, joiner]

/-- Stops that may stand within sentences. -/
def stops : CharSet := ofTable "2E 2024 FE52 FF0E"

/-- Capital letters, but for those of Georgian. -/
def sentenceCapitals : CharSet :=
  difference (union upper (category titlecaseLetter)) (ofTable "1C90-1CBA 1CBD-1CBF")

/-- Small letters, but for those of Georgian. -/
def sentenceSmall : CharSet := difference lower (union extending (ofTable "10D0-10FA 10FD-10FF"))

/-- The classes of characters in sentences, each with its names. -/
def sentenceClasses : List (List String × CharSet) :=
  [(["at", "aterm"], stops),
    (["cl", "close"],
      union (ofTable "22 27 275B-2760 2E00-2E01 2E06-2E08 2E0B 1F676-1F678")
        (difference
          (categories [openPunctuation, closePunctuation, initialPunctuation, finalPunctuation])
          (ofTable sentenceEnds))),
    (["cr"], returnSign),
    (["ex", "extend"], sentenceMarks),
    (["fo", "format"], difference (category format) sentenceMarks),
    (["le", "oletter"],
      difference (union alphabetic (single '\u05F3'))
        (unions [sentenceSmall, sentenceCapitals, sentenceMarks])),
    (["lf"], lineFeed),
    (["lo", "lower"], sentenceSmall),
    (["nu", "numeric"], union digits (ofTable "66B-66C")),
    (["sc", "scontinue"],
      ofTable "2C-2D 3A-3B 37E 55D 60C-60D 7F8 1802 1808 2013-2014 3001 FE10-FE11 FE13-FE14
FE31-FE32 FE50-FE51 FE54-FE55 FE58 FE63 FF0C-FF0D FF1A-FF1B FF64"),
    (["se", "sep"], ofTable "85 2028-2029"),
    (["sp"], difference blank (ofTable "A D 85 2028-2029")),
    (["st", "sterm"], difference (ofTable sentenceEnds) stops),
    (["up", "upper"], sentenceCapitals)]

/-- The set of a property's value. The characters of a version are those that it has. -/
def valued? (property value : List Char) : Option CharSet :=
  let value := normalize value
  match normalize property with
  | "gc" | "generalcategory" => category? value
  | "sc" | "script" => script? value
  | "scx" | "scriptextensions" => (Text.Script.ofName? value).map usedBy
  | "age" => (Text.Age.ofName? value).map fun version => listed (Text.Age.ranges version)
  | "gcb" | "graphemeclusterbreak" => lookUp clusterClasses value
  | "wb" | "wordbreak" => lookUp wordClasses value
  | "sb" | "sentencebreak" => lookUp sentenceClasses value
  | _ => none

end OpPolicy.Property
