import OpPolicy.Pattern.Bracket
import OpPolicy.Pattern.Size
import OpPolicy.Text.Numeral

set_option autoImplicit false

/-!
Patterns as they are written: characters, escapes, classes, groups in parentheses, choices between
bars and repetitions. Options that are set in parentheses of their own hold up to the end of the
group around them. A pattern whose parts are nested too deeply or that is too large is none.
-/

namespace OpPolicy.Pattern

/-- A pattern as it is written, with the number of levels of its parts. -/
structure Piece where
  pattern : Pattern
  depth : Nat := 0
  /-- Whether it can be repeated: the setting of options cannot. -/
  repeatable : Bool := true
  deriving DecidableEq, Repr

/-- Pieces in one, a level above them if there are two or more. -/
def joined (join : List Pattern → Pattern) (pieces : List Piece) : Piece :=
  let depth := pieces.foldl (fun depth p => max depth p.depth) 0
  ⟨join (pieces.map (·.pattern)), if 2 ≤ pieces.length then depth + 1 else depth, true⟩

/-- A group whose end is to come: the pieces since the last bar and the branches before it, both in
reverse, and the options to go back to. -/
structure OpenGroup where
  captures : Bool
  options : Options
  pieces : List Piece := []
  branches : List Piece := []
  deriving DecidableEq, Repr

namespace OpenGroup

def push (g : OpenGroup) (p : Pattern) (depth : Nat) : OpenGroup :=
  { g with pieces := ⟨p, depth, true⟩ :: g.pieces }

/-- The place where options are set. -/
def pushSetting (g : OpenGroup) : OpenGroup := { g with pieces := ⟨empty, 0, false⟩ :: g.pieces }

def endBranch (g : OpenGroup) : OpenGroup :=
  { g with pieces := [], branches := joined sequences g.pieces.reverse :: g.branches }

/-- What is between the parentheses. -/
def content (g : OpenGroup) : Piece := joined choices g.endBranch.branches.reverse

def piece (g : OpenGroup) : Pattern × Nat :=
  let inner := g.content
  (if g.captures then group inner.pattern else inner.pattern, inner.depth + 1)

/-- Repeat the last piece. -/
def repeatLast? (g : OpenGroup) (least : Nat) (most : Option Nat) : Option OpenGroup :=
  match g.pieces with
  | p :: pieces =>
    if p.repeatable then
      some { g with pieces := ⟨repeated p.pattern least most, p.depth + 1, true⟩ :: pieces }
    else none
  | [] => none

end OpenGroup

/-- What an opening parenthesis and the signs after it begin. -/
inductive Opening where
  | group (captures : Bool) (options : Options) (name : Option (List Char))
  | setting (options : Options)
  deriving DecidableEq, Repr

namespace Opening

abbrev Scan := Option (Opening × List Char)

/-- The letters of options, up to a colon or a closing parenthesis. What follows a hyphen is turned
off. No sign comes twice, and a hyphen is not the last. -/
def scanOptions (o : Options) (seen : List Char) : List Char → Scan
  | [] => none
  | c :: s =>
    if c = ':' then
      if seen.head? = some '-' then none else some (group false o none, s)
    else if c = ')' then
      if seen = [] ∨ seen.head? = some '-' then none else some (setting o, s)
    else if seen.contains c then none
    else if c = '-' then scanOptions o (c :: seen) s
    else
      match o.set? (!seen.contains '-') c with
      | some o => scanOptions o (c :: seen) s
      | none => none

/-- Names begin with a letter or an underscore. Dots, brackets and digits may follow. -/
def isName (name : List Char) : Bool :=
  match name with
  | [] => false
  | c :: s =>
    (c == '_' || CharSet.alphabetic.mem c) &&
      s.all fun c => "_.[]".toList.contains c || Property.alphanumeric.mem c

def scanName (o : Options) (s : List Char) : Scan :=
  let name := s.takeWhile (· ≠ '>')
  match s.drop name.length with
  | _ :: s => if isName name then some (group true o (some name), s) else none
  | [] => none

/-- Read what follows an opening parenthesis. Groups that only look ahead or back are none. -/
def scan (o : Options) (s : List Char) : Scan :=
  match o.skip s with
  | '?' :: 'P' :: '<' :: s => scanName o s
  | '?' :: '<' :: '=' :: _ | '?' :: '<' :: '!' :: _ => none
  | '?' :: '<' :: s => scanName o s
  | '?' :: s => scanOptions o [] s
  | s => some (group true o none, s)

end Opening

namespace Count

/-- A number among blanks. -/
def scanNumber (o : Options) (s : List Char) : Option (Option Nat × List Char) := do
  let (ds, s) := digits s.length (s.dropWhile Text.isBlank)
  let s := o.skip (s.dropWhile Text.isBlank)
  if ds = [] then return (none, s)
  else return (some (← (Numeral.unsigned Numeral.maxUInt32 ds).toOption), s)
where
  digits : Nat → List Char → List Char × List Char
    | fuel + 1, c :: s =>
      if c.isDigit then
        let r := digits fuel (o.skip s)
        (c :: r.1, r.2)
      else ([], c :: s)
    | _, s => ([], s)

/-- Read what follows the opening brace of a repetition: how often at least and at most. -/
def scan (o : Options) (s : List Char) : Option ((Nat × Option Nat) × List Char) := do
  let (least, s) ← scanNumber o (o.skip s)
  let least ← least
  match s with
  | '\x7d' :: s => return ((least, some least), s)
  | ',' :: s =>
    match o.skip s with
    | '\x7d' :: s => return ((least, none), s)
    | s => do
      let (most, s) ← scanNumber o s
      let most ← most
      match s with
      | '\x7d' :: s => if least ≤ most then return ((least, some most), s) else none
      | _ => none
  | _ => none

end Count

/-- Without the question mark that asks for a short match. -/
def dropShort : List Char → List Char
  | '?' :: s => s
  | s => s

/-- Read a pattern, `g` being the innermost group that is open. -/
def scan (o : Options) (names : List (List Char)) (g : OpenGroup) (outer : List OpenGroup) :
    (fuel : Nat) → List Char → Option Piece
  | 0, _ => none
  | fuel + 1, s =>
    match o.skip s with
    | [] => if outer = [] then some g.content else none
    | c :: s =>
      match c with
      | '(' =>
        match Opening.scan o s with
        | none => none
        | some (.setting o, s) => scan o names g.pushSetting outer fuel s
        | some (.group captures inner name, s) =>
          let clashes := name.any names.contains
          if clashes then none
          else scan inner (name.toList ++ names) ⟨captures, o, [], []⟩ (g :: outer) fuel s
      | ')' =>
        match outer with
        | [] => none
        | h :: outer => scan g.options names (h.push g.piece.1 g.piece.2) outer fuel s
      | '|' => scan o names g.endBranch outer fuel s
      | '[' => do
        let (found, s) ← Class.scan o s
        scan o names (g.push (one found.set) found.depth) outer fuel s
      | '?' => do scan o names (← g.repeatLast? 0 (some 1)) outer fuel (dropShort s)
      | '*' => do scan o names (← g.repeatLast? 0 none) outer fuel (dropShort s)
      | '+' => do scan o names (← g.repeatLast? 1 none) outer fuel (dropShort s)
      | '\x7b' => do
        let ((least, most), s) ← Count.scan o s
        scan o names (← g.repeatLast? least most) outer fuel (dropShort (o.skip s))
      | '.' => do scan o names (g.push (one (← o.dot?)) 0) outer fuel s
      | '^' => scan o names (g.push (look o.lineStart) 0) outer fuel s
      | '$' => scan o names (g.push (look o.lineEnd) 0) outer fuel s
      | '\\' => do
        let (found, s) ← Escape.scan o s
        let p := match found with
          | .literal c => o.literal c
          | .set found => one found
          | .look l => look l
        scan o names (g.push p 0) outer fuel s
      | c => scan o names (g.push (o.literal c) 0) outer fuel s

def depthLimit : Nat := 250

/-- The pattern that a text describes. -/
def read? (s : List Char) : Option Pattern := do
  let whole ← scan {} [] ⟨false, {}, [], []⟩ [] (s.length + 1) s
  if whole.depth ≤ depthLimit ∧ whole.pattern.isSmall then some whole.pattern else none

end OpPolicy.Pattern
