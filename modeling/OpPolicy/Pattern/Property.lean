import OpPolicy.Pattern.CharSet

set_option autoImplicit false

/-!
Properties of characters by their names: general categories, scripts, and those that a character has
or has not. In names, case, blanks, hyphens and underscores make no difference, nor does `is` in
front. Most properties are categories and lists of what else has them.
-/

namespace OpPolicy.Property

open CharSet Text.GeneralCategory Text.PropertyTable

/-- A name as names are compared. -/
def normalize (name : List Char) : String :=
  let isPrefixed := (name.take 2).map Char.toLower == ['i', 's']
  let name := if isPrefixed then name.drop 2 else name
  let kept := name.filter fun c => c < '\x80' && c != ' ' && c != '_' && c != '-'
  let kept := String.ofList (kept.map Char.toLower)
  if isPrefixed && kept == "c" then "isc" else kept

def assigned : CharSet := complement (category unassigned)

/-- The names of general categories and of their groups. A surrogate is no character. -/
def categoryNames : List (List String × CharSet) :=
  [(["any"], all),
    (["assigned"], assigned),
    (["ascii"], range '\x00' '\x7f'),
    (["l", "letter"], categories letters),
    (["lc", "casedletter"],
      categories [uppercaseLetter, lowercaseLetter, titlecaseLetter]),
    (["lu", "uppercaseletter"], category uppercaseLetter),
    (["ll", "lowercaseletter"], category lowercaseLetter),
    (["lt", "titlecaseletter"], category titlecaseLetter),
    (["lm", "modifierletter"], category modifierLetter),
    (["lo", "otherletter"], category otherLetter),
    (["m", "mark", "combiningmark"], categories marks),
    (["mn", "nonspacingmark"], category nonspacingMark),
    (["mc", "spacingmark"], category spacingMark),
    (["me", "enclosingmark"], category enclosingMark),
    (["n", "number"], categories numbers),
    (["nd", "decimalnumber", "digit"], category decimalNumber),
    (["nl", "letternumber"], category letterNumber),
    (["no", "othernumber"], category otherNumber),
    (["p", "punctuation", "punct"], categories punctuation),
    (["pc", "connectorpunctuation"], category connectorPunctuation),
    (["pd", "dashpunctuation"], category dashPunctuation),
    (["ps", "openpunctuation"], category openPunctuation),
    (["pe", "closepunctuation"], category closePunctuation),
    (["pi", "initialpunctuation"], category initialPunctuation),
    (["pf", "finalpunctuation"], category finalPunctuation),
    (["po", "otherpunctuation"], category otherPunctuation),
    (["s", "symbol"], categories symbols),
    (["sm", "mathsymbol"], category mathSymbol),
    (["sc", "currencysymbol"], category currencySymbol),
    (["sk", "modifiersymbol"], category modifierSymbol),
    (["so", "othersymbol"], category otherSymbol),
    (["z", "separator"], categories separators),
    (["zs", "spaceseparator"], category spaceSeparator),
    (["zl", "lineseparator"], category lineSeparator),
    (["zp", "paragraphseparator"], category paragraphSeparator),
    (["c", "other"], categories others),
    (["cc", "control", "cntrl"], category control),
    (["cf", "format"], category format),
    (["co", "privateuse"], category privateUse),
    (["cn", "unassigned"], category unassigned)]

def upper : CharSet := union (category uppercaseLetter) (ofTable capitalSigns)

def lower : CharSet := union (category lowercaseLetter) (ofTable smallSigns)

def cased : CharSet := unions [upper, lower, category titlecaseLetter]

/-- The characters with another case. -/
def changing : CharSet := union (listed Text.caseRanges) (ofTable multipleCase)

/-- Those that are in capitals, the capital I with a dot among them. -/
def lowercased : CharSet :=
  union (single '\u0130')
    (intersection (listed Text.caseRanges) (union upper (category titlecaseLetter)))

def uppercased : CharSet := union (difference changing lowercased) (category titlecaseLetter)

/-- As in capitals, but the letters of Georgian do not change. -/
def titlecased : CharSet :=
  union (ofTable "1C4 1C7 1CA 1F1")
    (difference (difference changing lowercased) (ofTable "10D0-10FA 10FD-10FF"))

/-- The capitals of Cherokee fold to themselves. -/
def folded : CharSet :=
  union (difference lowercased (ofTable "13A0-13F5")) (ofTable foldsApart)

/-- The characters that belong to the one before them. -/
def extending : CharSet :=
  unions [categories [nonspacingMark, enclosingMark], listed Text.joinedMarks,
    ofTable joinedSigns]

/-- The first characters of identifiers. -/
def idStart : CharSet :=
  difference (unions [categories (letterNumber :: letters), ofTable idStartSigns])
    (single '\u2E2F')

def idContinue : CharSet :=
  unions [idStart, categories [nonspacingMark, spacingMark, decimalNumber, connectorPunctuation],
    ofTable idContinueSigns]

def ideographs : CharSet := union (ofTable unifiedIdeographs) (ofTable otherIdeographs)

def alphanumeric : CharSet := union alphabetic (categories numbers)

def asciiHexDigits : CharSet := unions [asciiDigits, range 'A' 'F', range 'a' 'f']

def flags : CharSet := ofTable "1F1E6-1F1FF"

def skinTones : CharSet := ofTable "1F3FB-1F3FF"

def pictographic : CharSet :=
  union (ofTable futureEmoji)
    (difference (ofTable emoji) (unions [ofString "#*", asciiDigits, flags, skinTones]))

/-- The last two places of each plane and a run of others are kept free of characters. -/
def noncharacters : CharSet :=
  listed ((0xFDD0, 0xFDEF) ::
    (List.range 17).map fun plane => (plane * 0x10000 + 0xFFFE, plane * 0x10000 + 0xFFFF))

/-- The properties that a character has or has not. -/
def flagNames : List (List String × CharSet) :=
  [(["asciihexdigit", "ahex"], asciiHexDigits),
    (["alphabetic", "alpha"], alphabetic),
    (["bidicontrol", "bidic"], ofTable bidiControls),
    (["caseignorable", "ci"],
      unions [categories [nonspacingMark, enclosingMark, format, modifierLetter, modifierSymbol],
        ofTable caseNeutral]),
    (["cased"], cased),
    (["changeswhencasefolded", "cwcf"], folded),
    (["changeswhencasemapped", "cwcm"], changing),
    (["changeswhenlowercased", "cwl"], lowercased),
    (["changeswhentitlecased", "cwt"], titlecased),
    (["changeswhenuppercased", "cwu"], uppercased),
    (["dash"], union (category dashPunctuation) (ofTable dashSigns)),
    (["defaultignorablecodepoint", "di"], ofTable ignorable),
    (["deprecated", "dep"], ofTable Text.PropertyTable.deprecated),
    (["diacritic", "dia"], ofTable diacritics),
    (["emoji"], ofTable emoji),
    (["emojicomponent", "ecomp"], ofTable emojiParts),
    (["emojimodifier", "emod"], skinTones),
    (["emojimodifierbase", "ebase"], ofTable emojiBases),
    (["emojipresentation", "epres"], ofTable colorful),
    (["extendedpictographic", "extpict"], pictographic),
    (["extender", "ext"], ofTable extenders),
    (["graphemebase", "grbase"],
      complement (unions [categories others, categories [lineSeparator, paragraphSeparator],
        extending])),
    (["graphemeextend", "grext"], extending),
    (["graphemelink", "grlink"], ofTable linkers),
    (["hexdigit", "hex"], union asciiHexDigits (ofTable "FF10-FF19 FF21-FF26 FF41-FF46")),
    (["hyphen"], ofTable hyphens),
    (["idsbinaryoperator", "idsb"], ofTable "2FF0-2FF1 2FF4-2FFD 31EF"),
    (["idstrinaryoperator", "idst"], ofTable "2FF2-2FF3"),
    (["idsunaryoperator", "idsu"], ofTable "2FFE-2FFF"),
    (["idcompatmathcontinue"], union (ofTable formulaStarts) (ofTable formulaParts)),
    (["idcompatmathstart"], ofTable formulaStarts),
    (["idcontinue", "idc"], idContinue),
    (["idstart", "ids"], idStart),
    (["ideographic", "ideo"], ideographs),
    (["joincontrol", "joinc"], joiners),
    (["logicalorderexception", "loe"], ofTable storedFirst),
    (["lowercase", "lower"], lower),
    (["math"], union (category mathSymbol) (ofTable mathSigns)),
    (["modifiercombiningmark", "mcm"], ofTable combiningMarks),
    (["noncharactercodepoint", "nchar"], noncharacters),
    (["otheralphabetic", "oalpha"], ofTable alphabeticMarks),
    (["otherdefaultignorablecodepoint", "odi"], ofTable ignorableSigns),
    (["othergraphemeextend", "ogrext"], union (listed Text.joinedMarks) (ofTable joinedSigns)),
    (["otheridcontinue", "oidc"], ofTable idContinueSigns),
    (["otheridstart", "oids"], ofTable idStartSigns),
    (["otherlowercase", "olower"], ofTable smallSigns),
    (["othermath", "omath"], ofTable mathSigns),
    (["otheruppercase", "oupper"], ofTable capitalSigns),
    (["patternsyntax", "patsyn"], ofTable patternSigns),
    (["patternwhitespace", "patws"], ofTable patternBlanks),
    (["prependedconcatenationmark", "pcm"], ofTable numberSigns),
    (["quotationmark", "qmark"], ofTable quotationMarks),
    (["radical"], ofTable radicals),
    (["regionalindicator", "ri"], flags),
    (["sentenceterminal", "sterm"], ofTable sentenceEnds),
    (["softdotted", "sd"], ofTable softDotted),
    (["terminalpunctuation", "term"], union (ofTable sentenceEnds) (ofTable clauseEnds)),
    (["unifiedideograph", "uideo"], ofTable unifiedIdeographs),
    (["uppercase", "upper"], upper),
    (["variationselector", "vs"], ofTable selectors),
    (["whitespace", "wspace", "space"], blank),
    (["xidcontinue", "xidc"], difference idContinue (ofTable unstable)),
    (["xidstart", "xids"], difference idStart (ofTable unstableStart))]

def lookUp (names : List (List String × CharSet)) (name : String) : Option CharSet :=
  (names.find? fun entry => entry.1.contains name).map Prod.snd

def category? (name : String) : Option CharSet := lookUp categoryNames name

def script? (name : String) : Option CharSet := (Text.Script.ofName? name).map CharSet.script

/-- The set that a name alone stands for. -/
def named? (name : List Char) : Option CharSet :=
  let name := normalize name
  lookUp flagNames name <|> category? name <|> script? name

end OpPolicy.Property
