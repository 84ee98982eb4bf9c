import OpPolicy.Text.Blank
import OpPolicy.Text.Fold
import OpPolicy.Text.GeneralCategory
import OpPolicy.Text.Script

set_option autoImplicit false

/-!
Sets of characters, as patterns describe them.
-/

namespace OpPolicy

inductive CharSet where
  | empty
  | range (first last : Char)
  | listed (ranges : Text.Ranges)
  | category (c : Text.GeneralCategory)
  | script (code : String)
  /-- The characters that a script uses, other scripts' among them. -/
  | usedBy (code : String)
  | union (a b : CharSet)
  | intersection (a b : CharSet)
  | complement (a : CharSet)
  /-- With the characters that differ only in case. -/
  | anyCase (a : CharSet)
  /-- With the ASCII letters that differ only in case. -/
  | anyAsciiCase (a : CharSet)
  deriving DecidableEq, Repr

namespace CharSet

def mem (c : Char) : CharSet → Bool
  | empty => false
  | range first last => first ≤ c && c ≤ last
  | listed ranges => ranges.has c.toNat
  | category g => Text.GeneralCategory.ofChar c == g
  | script code => Text.Script.ofChar c == code
  | usedBy code => Text.Script.isUsedBy code c
  | union a b => a.mem c || b.mem c
  | intersection a b => a.mem c && b.mem c
  | complement a => !a.mem c
  | anyCase a => (Text.caseVariants c).any fun d => a.mem d
  | anyAsciiCase a => a.mem c || (Text.asciiVariants c).any fun d => a.mem d

/-- The code points of a set, surrogates aside, as ranges in normal form. -/
def ranges : CharSet → Text.Ranges
  | empty => []
  | range first last => if first ≤ last then [(first.toNat, last.toNat)] else []
  | listed ranges => ranges.normalize
  | category g => g.ranges
  | script code => Text.Script.ranges code
  | usedBy code => Text.Script.usedRanges code
  | union a b => a.ranges.union b.ranges
  | intersection a b => a.ranges.intersection b.ranges
  | complement a => a.ranges.complement
  | anyCase a => Text.Moves.closure Text.foldRuns a.ranges
  | anyAsciiCase a => Text.Moves.asciiFold.closure a.ranges

def single (c : Char) : CharSet := range c c

def all : CharSet := complement empty

def difference (a b : CharSet) : CharSet := intersection a (complement b)

def symmetricDifference (a b : CharSet) : CharSet := union (difference a b) (difference b a)

def unions (sets : List CharSet) : CharSet := sets.foldl union empty

def categories (cs : List Text.GeneralCategory) : CharSet := unions (cs.map category)

/-- The characters of a table of code points. -/
def ofTable (table : String) : CharSet := listed (.ofTable table)

def ofString (s : String) : CharSet := unions (s.toList.map single)

/-- The set or its complement. -/
def negatedIf (negated : Bool) (s : CharSet) : CharSet := if negated then complement s else s

/-! The classes that have a letter of their own, and those of ASCII that have a name. -/

def blank : CharSet :=
  listed [(0x9, 0xD), (0x20, 0x20), (0x85, 0x85), (0xA0, 0xA0), (0x1680, 0x1680),
    (0x2000, 0x200A), (0x2028, 0x2029), (0x202F, 0x202F), (0x205F, 0x205F), (0x3000, 0x3000)]

def digits : CharSet := category .decimalNumber

def asciiDigits : CharSet := range '0' '9'

def asciiBlanks : CharSet := ofString " \t\n\x0b\x0c\r"

def asciiLetters : CharSet := union (range 'a' 'z') (range 'A' 'Z')

def asciiWord : CharSet := unions [asciiLetters, asciiDigits, single '_']

/-- Letters, and the marks and symbols that count as letters. -/
def alphabetic : CharSet :=
  unions [categories (.letterNumber :: Text.GeneralCategory.letters),
    ofTable Text.PropertyTable.alphabeticMarks]

/-- The joiner and the sign that keeps letters apart. -/
def joiners : CharSet := range '\u200C' '\u200D'

/-- The characters of words: letters, marks, digits, connectors and joiners. -/
def word : CharSet :=
  unions [alphabetic, categories Text.GeneralCategory.marks,
    categories [.decimalNumber, .connectorPunctuation], joiners]

end CharSet

end OpPolicy
