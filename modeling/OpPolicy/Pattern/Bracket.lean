import OpPolicy.Pattern.Escape

set_option autoImplicit false

/-!
Classes in brackets: characters, ranges, escapes, named classes of ASCII and further brackets side
by side, joined by the operators of sets. The operators bind less than what stands side by side, and
all bind alike from the left. A class comes with its depth, the number of levels of its parts.
-/

namespace OpPolicy.Pattern

inductive SetOperator where
  | intersection
  | difference
  | symmetricDifference
  deriving DecidableEq, Repr

def SetOperator.apply (a b : CharSet) : SetOperator → CharSet
  | intersection => .intersection a b
  | difference => .difference a b
  | symmetricDifference => .symmetricDifference a b

/-- A set as it is written, with the number of levels of its parts. -/
structure Class where
  set : CharSet
  depth : Nat := 0
  deriving DecidableEq, Repr

/-- A class whose closing bracket is to come: what stands side by side since the last operator, and
that operator with what came before it. -/
structure OpenClass where
  negated : Bool
  left : Option (SetOperator × Class) := none
  members : CharSet := .empty
  count : Nat := 0
  depth : Nat := 0
  deriving DecidableEq, Repr

namespace OpenClass

def add (p : OpenClass) (member : Class) : OpenClass :=
  { p with
    members := .union p.members member.set
    count := p.count + 1
    depth := max p.depth member.depth }

/-- What the class comes to so far. -/
def settled (p : OpenClass) (o : Options) : Class :=
  let right : Class := ⟨p.members, if 2 ≤ p.count then p.depth + 1 else p.depth⟩
  match p.left with
  | none => right
  | some (operator, left) =>
    ⟨operator.apply (o.fold left.set) (o.fold right.set), max left.depth right.depth + 1⟩

def operate (p : OpenClass) (o : Options) (operator : SetOperator) : OpenClass :=
  ⟨p.negated, some (operator, p.settled o), .empty, 0, 0⟩

def close? (p : OpenClass) (o : Options) : Option Class :=
  let inner := p.settled o
  (o.negate? p.negated (o.fold inner.set)).map fun s => ⟨s, inner.depth + 1⟩

end OpenClass

namespace Class

abbrev Scan := Option (Class × List Char)

/-- A class of ASCII by its name. -/
def ofName? (name : List Char) : Option CharSet :=
  match String.ofList name with
  | "alnum" => some (.union .asciiLetters .asciiDigits)
  | "alpha" => some .asciiLetters
  | "ascii" => some (.range '\x00' '\x7f')
  | "blank" => some (.ofString " \t")
  | "cntrl" => some (.union (.range '\x00' '\x1f') (.single '\x7f'))
  | "digit" => some .asciiDigits
  | "graph" => some (.range '!' '~')
  | "lower" => some (.range 'a' 'z')
  | "print" => some (.range ' ' '~')
  | "punct" =>
    some (.unions [.range '!' '/', .range ':' '@', .range '[' '\x60', .range '\x7b' '~'])
  | "space" => some .asciiBlanks
  | "upper" => some (.range 'A' 'Z')
  | "word" => some .asciiWord
  | "xdigit" => some (.unions [.asciiDigits, .range 'A' 'F', .range 'a' 'f'])
  | _ => none

/-- What follows the bracket and colon of a named class: the name, with a circumflex in front if all
else is meant. -/
def scanName? (s : List Char) : Option ((Bool × CharSet) × List Char) :=
  let (negated, s) := match s with
    | '^' :: s => (true, s)
    | s => (false, s)
  match s.dropWhile (· ≠ ':') with
  | ':' :: ']' :: rest =>
    (ofName? (s.takeWhile (· ≠ ':'))).map fun found => ((negated, found), rest)
  | _ => none

/-- The sign after a hyphen: the next one, and in the extended layout the next one after blanks and
a number sign. -/
def peek (o : Options) (s : List Char) : Option Char :=
  if o.extended then
    match s.dropWhile Text.isBlank with
    | '#' :: s => (s.dropWhile Text.isBlank).head?
    | s => s.head?
  else s.head?

/-- A character or an escape. -/
def scanItem (o : Options) : List Char → Escape.Scan
  | [] => none
  | '\\' :: s => Escape.scan o s
  | c :: s => some (.literal c, s)

/-- A character as a member. Without Unicode, only those of ASCII are members. -/
def literal? (o : Options) : Escape → Option Char
  | .literal c => if o.unicode || c < '\x80' then some c else none
  | _ => none

def ofItem? (o : Options) : Escape → Option Class
  | .set s => some ⟨s, 0⟩
  | item => (literal? o item).map fun c => ⟨.single c, 0⟩

/-- A range or a single member. A hyphen before the closing bracket or before another hyphen makes
no range. -/
def scanMember (o : Options) (s : List Char) : Scan := do
  let (item, s) ← scanItem o s
  match o.skip s with
  | '-' :: rest =>
    if peek o rest = some ']' ∨ peek o rest = some '-' then return (← ofItem? o item, '-' :: rest)
    else
      let (item', s) ← scanItem o (o.skip rest)
      let first ← literal? o item
      let last ← literal? o item'
      if first ≤ last then return (⟨.range first last, 0⟩, s) else none
  | s => return (← ofItem? o item, s)

/-- The hyphens at the beginning of a class. -/
def scanHyphens (o : Options) (p : OpenClass) : (fuel : Nat) → List Char → OpenClass × List Char
  | fuel + 1, '-' :: s => scanHyphens o (p.add ⟨.single '-', 0⟩) fuel (o.skip s)
  | _, s => (p, s)

/-- What follows an opening bracket: a circumflex if all else is meant, and hyphens or a closing
bracket that are members. -/
def scanOpening (o : Options) (s : List Char) : OpenClass × List Char :=
  let (negated, s) := match o.skip s with
    | '^' :: s => (true, o.skip s)
    | s => (false, s)
  match s with
  | ']' :: s => (OpenClass.add ⟨negated, none, .empty, 0, 0⟩ ⟨.single ']', 0⟩, o.skip s)
  | s => scanHyphens o ⟨negated, none, .empty, 0, 0⟩ s.length s

/-- Read a class, `p` being the innermost one that is open. -/
def scanOpen (o : Options) (p : OpenClass) (outer : List OpenClass) :
    (fuel : Nat) → List Char → Scan
  | 0, _ => none
  | fuel + 1, s =>
    match o.skip s with
    | [] => none
    | ']' :: s => do
      let found ← p.close? o
      match outer with
      | [] => return (found, s)
      | q :: outer => scanOpen o (q.add found) outer fuel s
    | '[' :: s =>
      let named := match s with
        | ':' :: s => scanName? s
        | _ => none
      match named with
      | some ((negated, found), s) => do
        let found ← o.negate? negated (o.fold found)
        scanOpen o (p.add ⟨found, 0⟩) outer fuel s
      | none =>
        let (inner, s) := scanOpening o s
        scanOpen o inner (p :: outer) fuel s
    | '&' :: '&' :: s => scanOpen o (p.operate o .intersection) outer fuel s
    | '-' :: '-' :: s => scanOpen o (p.operate o .difference) outer fuel s
    | '~' :: '~' :: s => scanOpen o (p.operate o .symmetricDifference) outer fuel s
    | s => do
      let (member, s) ← scanMember o s
      scanOpen o (p.add member) outer fuel s

/-- Read a class after its opening bracket. Each step takes at least one character. -/
def scan (o : Options) (s : List Char) : Scan :=
  let (p, rest) := scanOpening o s
  scanOpen o p [] (rest.length + 1) rest

end Class

end OpPolicy.Pattern
