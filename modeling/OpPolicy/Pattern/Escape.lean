import OpPolicy.Pattern.Options
import OpPolicy.Pattern.Segment
import OpPolicy.Text.Split

set_option autoImplicit false

/-!
Escapes: what a backslash and the signs after it stand for.
-/

namespace OpPolicy.Pattern

inductive Escape where
  | literal (c : Char)
  | set (s : CharSet)
  | look (l : Look)
  deriving DecidableEq, Repr

namespace Escape

abbrev Scan := Option (Escape × List Char)

/-- Whether a backslash before a character stands for the character itself. -/
def isPlain (c : Char) : Bool := c < '\x80' && !c.isAlphanum && c != '<' && c != '>'

/-- Some hexadecimal digits. -/
def hexDigits (o : Options) : Nat → List Char → Option (List Char × List Char)
  | 0, s => some ([], s)
  | _ + 1, [] => none
  | n + 1, c :: s =>
    if (Text.hexDigit? c).isSome then
      (hexDigits o n (o.skip s)).map fun r => (c :: r.1, r.2)
    else none

/-- A code point, in braces or with a fixed number of digits. Two digits count as one octet, which
above ASCII is no text. -/
def codePoint (o : Options) (digits : Nat) (s : List Char) : Scan :=
  match o.skip s with
  | '\x7b' :: s => do
    let (ds, s) ← o.braced false s
    let c ← if ds = [] then none else Text.codePoint? ds
    return (literal c, s)
  | s => do
    let (ds, s) ← hexDigits o digits s
    let c ← Text.codePoint? ds
    if digits = 2 && !o.unicode && '\x80' ≤ c then none else return (literal c, s)

/-- The set of a property in braces: its name, or a name and a value. -/
def property? (name : List Char) : Option (Bool × CharSet) :=
  match Text.splitFirst? ['!', '='] name with
  | some (property, value) => (Property.valued? property value).map fun s => (true, s)
  | none =>
    match Text.splitFirst? [':'] name <|> Text.splitFirst? ['='] name with
    | some (property, value) => (Property.valued? property value).map fun s => (false, s)
    | none => (Property.named? name).map fun s => (false, s)

/-- A property of one letter, or one in braces. -/
def property (o : Options) (negated : Bool) (s : List Char) : Scan := do
  let (name, s) ← match o.skip s with
    | [] | '\\' :: _ => none
    | '\x7b' :: s => o.braced false s
    | c :: s => some ([c], o.skip s)
  let (isOther, found) ← property? name
  if o.unicode then return (set (.negatedIf (negated != isOther) (o.fold found)), s) else none

def edge? (name : List Char) : Option WordEdge :=
  match String.ofList name with
  | "start" => some .start
  | "end" => some .finish
  | "start-half" => some .startHalf
  | "end-half" => some .finishHalf
  | _ => none

/-- The edge of a word, with its name in braces if a letter or a hyphen follows the brace. -/
def wordEdge (o : Options) (s : List Char) : Scan :=
  match s with
  | '\x7b' :: inner =>
    match o.skip inner with
    | [] => none
    | c :: _ =>
      if c.isAlpha || c == '-' then do
        let (name, s) ← o.braced false inner
        return (look (.word (← edge? name) o.letters), s)
      else some (look (.word .either o.letters), s)
  | _ => some (look (.word .either o.letters), s)

/-- Read what follows a backslash. -/
def scan (o : Options) : List Char → Scan
  | [] => none
  | c :: s =>
    match c with
    | 'x' => codePoint o 2 s
    | 'u' => codePoint o 4 s
    | 'U' => codePoint o 8 s
    | 'p' => property o false s
    | 'P' => property o true s
    | 'a' => some (literal '\x07', s)
    | 'f' => some (literal '\x0c', s)
    | 't' => some (literal '\t', s)
    | 'n' => some (literal '\n', s)
    | 'r' => some (literal '\r', s)
    | 'v' => some (literal '\x0b', s)
    | 'A' => some (look .textStart, s)
    | 'z' => some (look .textEnd, s)
    | 'b' => wordEdge o s
    | 'B' => some (look (.word .neither o.letters), s)
    | '<' => some (look (.word .start o.letters), s)
    | '>' => some (look (.word .finish o.letters), s)
    | c =>
      if isPlain c then some (literal c, s) else (o.class? c).map fun found => (set found, s)

end Escape

end OpPolicy.Pattern
