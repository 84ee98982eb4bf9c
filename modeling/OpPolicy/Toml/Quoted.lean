import OpPolicy.Text.Hex

set_option autoImplicit false

/-!
The strings and keys of TOML. Each scanner takes the text after the opening delimiter and gives the
string and what follows the closing one. A string over several lines may have up to two quotes
right before its closing delimiter, and ends its lines with line feeds however they are spelled.
-/

namespace OpPolicy.Toml

def isSpace (c : Char) : Bool := c == ' ' || c == '\t'

/-- The characters of comments and of literal strings: no control character but the tab. -/
def isPrintable (c : Char) : Bool := c == '\t' || (' ' ≤ c && c != '\x7f')

def isBareKey (c : Char) : Bool := c.isAlphanum || c == '-' || c == '_'

def shortEscape? : Char → Option Char
  | 'b' => some '\x08'
  | 't' => some '\t'
  | 'n' => some '\n'
  | 'f' => some '\x0c'
  | 'r' => some '\r'
  | '\x22' => some '\x22'
  | '\\' => some '\\'
  | _ => none

abbrev Scan (α : Type) := Option (α × List Char)

def Scan.push (c : Char) (r : Scan (List Char)) : Scan (List Char) :=
  r.map fun r => (c :: r.1, r.2)

/-- A string in double quotes on one line. -/
def scanBasic : List Char → Scan (List Char)
  | [] => none
  | '\x22' :: s => some ([], s)
  | '\\' :: 'u' :: a :: b :: c :: d :: s =>
    (Text.codePoint? [a, b, c, d]).bind fun x => (scanBasic s).push x
  | '\\' :: 'U' :: a :: b :: c :: d :: e :: f :: g :: h :: s =>
    (Text.codePoint? [a, b, c, d, e, f, g, h]).bind fun x => (scanBasic s).push x
  | '\\' :: e :: s => (shortEscape? e).bind fun x => (scanBasic s).push x
  | c :: s => if isPrintable c ∧ c ≠ '\\' then (scanBasic s).push c else none

/-- A string in single quotes on one line. -/
def scanLiteral : List Char → Scan (List Char)
  | [] => none
  | '\x27' :: s => some ([], s)
  | c :: s => if isPrintable c then (scanLiteral s).push c else none

/-- The end of a string over several lines, after three closing quotes: the quotes among those that
follow that belong to the string. -/
def closing (quote : Char) : List Char → List Char × List Char
  | [] => ([], [])
  | [a] => if a = quote then ([quote], []) else ([], [a])
  | a :: b :: s =>
    if a = quote then
      if b = quote then ([quote, quote], s) else ([quote], b :: s)
    else ([], a :: b :: s)

/-- Where a scanner is in a string over several lines. -/
inductive Folding where
  | text
  /-- After a backslash and blanks, where the line has to end. -/
  | broken
  /-- Between a line's end after a backslash and the next character that is no blank. -/
  | joining
  deriving DecidableEq, Repr

/-- A string in triple double quotes. A backslash at the end of a line takes the line end and the
blanks after it away. -/
def scanFolded : Folding → List Char → Scan (List Char)
  | _, [] => none
  | .broken, '\n' :: s => scanFolded .joining s
  | .broken, '\r' :: '\n' :: s => scanFolded .joining s
  | .broken, c :: s => if isSpace c then scanFolded .broken s else none
  | .joining, '\n' :: s => scanFolded .joining s
  | .joining, '\r' :: '\n' :: s => scanFolded .joining s
  | _, '\x22' :: '\x22' :: '\x22' :: s => some (closing '\x22' s)
  | _, '\r' :: '\n' :: s => (scanFolded .text s).push '\n'
  | _, '\\' :: 'u' :: a :: b :: c :: d :: s =>
    (Text.codePoint? [a, b, c, d]).bind fun x => (scanFolded .text s).push x
  | _, '\\' :: 'U' :: a :: b :: c :: d :: e :: f :: g :: h :: s =>
    (Text.codePoint? [a, b, c, d, e, f, g, h]).bind fun x => (scanFolded .text s).push x
  | _, '\\' :: '\n' :: s => scanFolded .joining s
  | _, '\\' :: '\r' :: '\n' :: s => scanFolded .joining s
  | _, '\\' :: e :: s =>
    if isSpace e then scanFolded .broken s
    else (shortEscape? e).bind fun x => (scanFolded .text s).push x
  | q, c :: s =>
    if q = .joining ∧ isSpace c then scanFolded .joining s
    else if (isPrintable c ∧ c ≠ '\\') ∨ c = '\n' then (scanFolded .text s).push c else none

/-- A string in triple single quotes. -/
def scanLines : List Char → Scan (List Char)
  | [] => none
  | '\x27' :: '\x27' :: '\x27' :: s => some (closing '\x27' s)
  | '\r' :: '\n' :: s => (scanLines s).push '\n'
  | c :: s => if isPrintable c ∨ c = '\n' then (scanLines s).push c else none

/-- Without the line end that may follow an opening delimiter. -/
def dropLineEnd : List Char → List Char
  | '\n' :: s => s
  | '\r' :: '\n' :: s => s
  | s => s

/-- A string with its delimiters. -/
def scanString : List Char → Scan String
  | '\x22' :: '\x22' :: '\x22' :: s => text (scanFolded .text (dropLineEnd s))
  | '\x22' :: s => text (scanBasic s)
  | '\x27' :: '\x27' :: '\x27' :: s => text (scanLines (dropLineEnd s))
  | '\x27' :: s => text (scanLiteral s)
  | _ => none
where
  text (r : Scan (List Char)) : Scan String := r.map fun r => (String.ofList r.1, r.2)

/-- A key without dots: bare, or a string on one line. -/
def scanKey : List Char → Scan String
  | '\x22' :: s => (scanBasic s).map fun r => (String.ofList r.1, r.2)
  | '\x27' :: s => (scanLiteral s).map fun r => (String.ofList r.1, r.2)
  | s =>
    match s.takeWhile isBareKey with
    | [] => none
    | key => some (String.ofList key, s.dropWhile isBareKey)

def skipSpace (s : List Char) : List Char := s.dropWhile isSpace

/-- The keys of a dotted key, with the blanks around them. -/
def scanKeys : Nat → List Char → Scan (List String)
  | 0, _ => none
  | fuel + 1, s =>
    match scanKey (skipSpace s) with
    | none => none
    | some (key, s) =>
      match skipSpace s with
      | '.' :: s => (scanKeys fuel s).map fun r => (key :: r.1, r.2)
      | s => some ([key], s)

/-- How deep arrays and inline tables may nest, and how many keys a dotted key may have. -/
def depthLimit : Nat := 79

/-- A dotted key as the way to its table and the last key. -/
def scanPath (s : List Char) : Scan (List String × String) :=
  match scanKeys (s.length + 1) s with
  | some (keys, rest) =>
    if depthLimit < keys.length then none
    else keys.getLast?.map fun key => ((keys.dropLast, key), rest)
  | none => none

end OpPolicy.Toml
