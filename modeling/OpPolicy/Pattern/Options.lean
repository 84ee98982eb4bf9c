import OpPolicy.Pattern.Basic
import OpPolicy.Text.Hex

set_option autoImplicit false

/-!
The options under which a pattern is read, and what signs mean under them. Options are written as
letters. In the extended layout, blanks and comments between the signs of a pattern mean nothing.
-/

namespace OpPolicy.Pattern

structure Options where
  anyCase : Bool := false
  /-- Whether `^` and `$` stand for the ends of lines. -/
  multiline : Bool := false
  /-- Whether a dot stands for a line feed too. -/
  dotAll : Bool := false
  /-- Whether carriage returns end lines. -/
  returns : Bool := false
  /-- Whether classes go beyond ASCII. -/
  unicode : Bool := true
  /-- Whether the layout is the extended one. -/
  extended : Bool := false
  deriving DecidableEq, Repr

namespace Options

/-- Turn on or off the option of a letter. `U` prefers short matches, which are matches as well. -/
def set? (o : Options) (on : Bool) : Char → Option Options
  | 'i' => some { o with anyCase := on }
  | 'm' => some { o with multiline := on }
  | 's' => some { o with dotAll := on }
  | 'R' => some { o with returns := on }
  | 'u' => some { o with unicode := on }
  | 'x' => some { o with extended := on }
  | 'U' => some o
  | _ => none

/-- Without the blanks and comments in front of a text. A comment starts with a number sign and runs
to the end of its line. -/
def dropLayout : (inComment : Bool) → List Char → List Char
  | _, [] => []
  | true, c :: s => dropLayout (c != '\n') s
  | false, c :: s =>
    if c = '#' then dropLayout true s else if Text.isBlank c then dropLayout false s else c :: s

/-- What a pattern goes on with. -/
def skip (o : Options) (s : List Char) : List Char := if o.extended then dropLayout false s else s

/-- The text up to a closing brace, and what follows that. -/
def braced (o : Options) : (inComment : Bool) → List Char → Option (List Char × List Char)
  | _, [] => none
  | true, c :: s => o.braced (c != '\n') s
  | false, c :: s =>
    if c = '}' then some ([], s)
    else if o.extended ∧ c = '#' then o.braced true s
    else if o.extended ∧ Text.isBlank c then o.braced false s
    else (o.braced false s).map fun r => (c :: r.1, r.2)

/-- A set, with the characters that differ only in case if case is to make no difference. -/
def fold (o : Options) (s : CharSet) : CharSet :=
  if !o.anyCase then s else if o.unicode then .anyCase s else .anyAsciiCase s

/-- A set or its complement, which goes beyond ASCII. -/
def negate? (o : Options) (negated : Bool) (s : CharSet) : Option CharSet :=
  if negated && !o.unicode then none else some (.negatedIf negated s)

def choose (o : Options) (unicode ascii : CharSet) : CharSet := if o.unicode then unicode else ascii

/-- The characters of words. -/
def letters (o : Options) : CharSet := o.choose .word .asciiWord

/-- The class of a letter. -/
def class? (o : Options) : Char → Option CharSet
  | 'd' => some (o.choose .digits .asciiDigits)
  | 's' => some (o.choose .blank .asciiBlanks)
  | 'w' => some o.letters
  | 'D' => o.negate? true .digits
  | 'S' => o.negate? true .blank
  | 'W' => o.negate? true .word
  | _ => none

def dot? (o : Options) : Option CharSet :=
  o.negate? true (if o.dotAll then .empty else .ofString (if o.returns then "\r\n" else "\n"))

def lineStart (o : Options) : Look := if o.multiline then .lineStart o.returns else .textStart

def lineEnd (o : Options) : Look := if o.multiline then .lineEnd o.returns else .textEnd

def literal (o : Options) (c : Char) : Pattern := one (o.fold (.single c))

end Options

end OpPolicy.Pattern
