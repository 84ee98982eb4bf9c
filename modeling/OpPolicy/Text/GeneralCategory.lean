import OpPolicy.Text.CategoryTable
import OpPolicy.Text.PropertyTable
import OpPolicy.Text.Ranges

set_option autoImplicit false

/-!
The general category of a character.
-/

namespace OpPolicy.Text

inductive GeneralCategory where
  | uppercaseLetter | lowercaseLetter | titlecaseLetter | modifierLetter | otherLetter
  | nonspacingMark | spacingMark | enclosingMark
  | decimalNumber | letterNumber | otherNumber
  | connectorPunctuation | dashPunctuation | openPunctuation | closePunctuation
  | initialPunctuation | finalPunctuation | otherPunctuation
  | mathSymbol | currencySymbol | modifierSymbol | otherSymbol
  | spaceSeparator | lineSeparator | paragraphSeparator
  | control | format | surrogate | privateUse | unassigned
  deriving DecidableEq, Repr

namespace GeneralCategory

def letters : List GeneralCategory :=
  [uppercaseLetter, lowercaseLetter, titlecaseLetter, modifierLetter, otherLetter]

def marks : List GeneralCategory := [nonspacingMark, spacingMark, enclosingMark]

def numbers : List GeneralCategory := [decimalNumber, letterNumber, otherNumber]

def punctuation : List GeneralCategory :=
  [connectorPunctuation, dashPunctuation, openPunctuation, closePunctuation, initialPunctuation,
    finalPunctuation, otherPunctuation]

def symbols : List GeneralCategory := [mathSymbol, currencySymbol, modifierSymbol, otherSymbol]

def separators : List GeneralCategory := [spaceSeparator, lineSeparator, paragraphSeparator]

def others : List GeneralCategory := [control, format, surrogate, privateUse, unassigned]

def all : List GeneralCategory :=
  letters ++ marks ++ numbers ++ punctuation ++ symbols ++ separators ++ others

/-- The two letters that stand for a category. -/
def code : GeneralCategory → String
  | uppercaseLetter => "Lu"
  | lowercaseLetter => "Ll"
  | titlecaseLetter => "Lt"
  | modifierLetter => "Lm"
  | otherLetter => "Lo"
  | nonspacingMark => "Mn"
  | spacingMark => "Mc"
  | enclosingMark => "Me"
  | decimalNumber => "Nd"
  | letterNumber => "Nl"
  | otherNumber => "No"
  | connectorPunctuation => "Pc"
  | dashPunctuation => "Pd"
  | openPunctuation => "Ps"
  | closePunctuation => "Pe"
  | initialPunctuation => "Pi"
  | finalPunctuation => "Pf"
  | otherPunctuation => "Po"
  | mathSymbol => "Sm"
  | currencySymbol => "Sc"
  | modifierSymbol => "Sk"
  | otherSymbol => "So"
  | spaceSeparator => "Zs"
  | lineSeparator => "Zl"
  | paragraphSeparator => "Zp"
  | control => "Cc"
  | format => "Cf"
  | surrogate => "Cs"
  | privateUse => "Co"
  | unassigned => "Cn"

def ofCode? (s : String) : Option GeneralCategory := all.find? (·.code = s)

def runs : Runs GeneralCategory := .ofTable 2 ofCode? categoryTable

def ofChar (c : Char) : GeneralCategory := runs.seek c.toNat unassigned

/-- The code points of a category. -/
def ranges (c : GeneralCategory) : Ranges := .ofRuns (· = c) runs

end GeneralCategory

/-- The spacing marks that belong to the character before them, as nonspacing marks do. -/
def joinedMarks : Ranges := .ofTable PropertyTable.joinedMarks

/-- Whether a character shows on its own: it is a letter, a number, punctuation, a symbol, a mark
with a place of its own, or the ordinary space. -/
def isVisible (c : Char) : Bool :=
  c == ' ' ||
    (!GeneralCategory.others.contains (.ofChar c) &&
      !GeneralCategory.separators.contains (.ofChar c) &&
      GeneralCategory.ofChar c ≠ .nonspacingMark && GeneralCategory.ofChar c ≠ .enclosingMark &&
      !joinedMarks.has c.toNat)

end OpPolicy.Text
