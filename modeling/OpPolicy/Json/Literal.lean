import OpPolicy.Text.Hex

set_option autoImplicit false

/-!
The literals of JSON text. A string literal is kept as it is spelled between its quotes; `unescape`
gives the text that it means and refuses a lone surrogate, which only a value that nobody looks at
may hold. `escape` spells a text with the short escapes where there are any. A number is kept as it
is spelled too, and is an integer if it has no fraction, no exponent and no sign before a zero.
-/

namespace OpPolicy.Json

def hex4? (a b c d : Char) : Option Nat := Text.hex? [a, b, c, d]

/-- The character that a short escape stands for. -/
def shortEscape? : Char → Option Char
  | '\x22' => some '\x22'
  | '\\' => some '\\'
  | '/' => some '/'
  | 'b' => some '\x08'
  | 'f' => some '\x0c'
  | 'n' => some '\n'
  | 'r' => some '\r'
  | 't' => some '\t'
  | _ => none

/-- The spelling of a string up to its closing quote, and what follows the quote. -/
def scanString : List Char → Option (List Char × List Char)
  | [] => none
  | '\x22' :: s => some ([], s)
  | '\\' :: 'u' :: a :: b :: c :: d :: s =>
    match hex4? a b c d with
    | some _ => (scanString s).map fun r => ('\\' :: 'u' :: a :: b :: c :: d :: r.1, r.2)
    | none => none
  | '\\' :: e :: s =>
    match shortEscape? e with
    | some _ => (scanString s).map fun r => ('\\' :: e :: r.1, r.2)
    | none => none
  | c :: s =>
    if c = '\\' ∨ c < ' ' then none else (scanString s).map fun r => (c :: r.1, r.2)

def isLeading (n : Nat) : Bool := 0xD800 ≤ n && n ≤ 0xDBFF

def isTrailing (n : Nat) : Bool := 0xDC00 ≤ n && n ≤ 0xDFFF

/-- The text that a spelling means. -/
def unescape : List Char → Option (List Char)
  | [] => some []
  | '\\' :: 'u' :: a :: b :: c :: d :: s =>
    match hex4? a b c d with
    | none => none
    | some n =>
      if isTrailing n then none
      else if isLeading n then
        match s with
        | '\\' :: 'u' :: e :: f :: g :: h :: s =>
          match hex4? e f g h with
          | none => none
          | some m =>
            if isTrailing m then
              (unescape s).map (Char.ofNat (0x10000 + (n - 0xD800) * 0x400 + (m - 0xDC00)) :: ·)
            else none
        | _ => none
      else (unescape s).map (Char.ofNat n :: ·)
  | '\\' :: e :: s =>
    match shortEscape? e with
    | some c => (unescape s).map (c :: ·)
    | none => none
  | c :: s => if c = '\\' then none else (unescape s).map (c :: ·)

def lowerHex (n : Nat) : Char := Nat.digitChar (n % 16)

def escapeChar (c : Char) : List Char :=
  if c = '\x22' then ['\\', '\x22']
  else if c = '\\' then ['\\', '\\']
  else if c = '\x08' then ['\\', 'b']
  else if c = '\x0c' then ['\\', 'f']
  else if c = '\n' then ['\\', 'n']
  else if c = '\r' then ['\\', 'r']
  else if c = '\t' then ['\\', 't']
  else if c < ' ' then ['\\', 'u', '0', '0', lowerHex (c.toNat / 16), lowerHex c.toNat]
  else [c]

def escape (s : List Char) : List Char := s.flatMap escapeChar

/-- Leading digits and the rest. -/
def spanDigits (s : List Char) : List Char × List Char :=
  (s.takeWhile Char.isDigit, s.dropWhile Char.isDigit)

/-- A fraction, if a point comes next. -/
def scanFraction : List Char → Option (List Char × List Char)
  | '.' :: s =>
    let r := spanDigits s
    if r.1 = [] then none else some ('.' :: r.1, r.2)
  | s => some ([], s)

/-- An exponent, if its letter comes next. -/
def scanExponent (s : List Char) : Option (List Char × List Char) :=
  match s with
  | [] => some ([], [])
  | e :: t =>
    if e = 'e' ∨ e = 'E' then
      let sign := t.takeWhile (fun c => c = '+' ∨ c = '-')
      let r := spanDigits (t.drop sign.length)
      if 1 < sign.length ∨ r.1 = [] then none else some (e :: sign ++ r.1, r.2)
    else some ([], s)

/-- The spelling of a number, and what follows it. A zero ends the digits before the point. -/
def scanNumber (s : List Char) : Option (List Char × List Char) := do
  let sign := if s.head? = some '-' then ['-'] else []
  let (whole, s) ← match s.drop sign.length with
    | [] => none
    | '0' :: s => some (['0'], s)
    | s =>
      let r := spanDigits s
      if r.1 = [] then none else some r
  let (fraction, s) ← scanFraction s
  let (exponent, s) ← scanExponent s
  return (sign ++ whole ++ fraction ++ exponent, s)

/-- The value of a number that is spelled as an integer. -/
def integer? (spelling : List Char) : Option Int :=
  match spelling with
  | ['-', '0'] => none
  | '-' :: ds => if ds.all Char.isDigit then some (-Int.ofNat (Nat.ofDigitChars 10 ds 0)) else none
  | ds => if ds.all Char.isDigit then some (Int.ofNat (Nat.ofDigitChars 10 ds 0)) else none

def spellInteger : Int → List Char
  | .ofNat n => Nat.toDigits 10 n
  | .negSucc n => '-' :: Nat.toDigits 10 (n + 1)

end OpPolicy.Json
