import OpPolicy.Pattern.CharSet

set_option autoImplicit false

/-!
Patterns of text, and the search for one. A pattern leads from places of a text to places: to those
where a part that fits can end if it starts at one of them. The places of a text lie before, between
and after its characters, and a set of them is a list with one flag for each place.
-/

namespace OpPolicy

/-- How the edge of a word lies at a place. -/
inductive WordEdge where
  | either
  | neither
  | start
  | finish
  /-- No word goes on before the place. -/
  | startHalf
  /-- No word goes on after the place. -/
  | finishHalf
  deriving DecidableEq, Repr

/-- A condition on the characters around a place. Carriage returns end lines as line feeds do, if it
says so; no line ends between the two. -/
inductive Look where
  | textStart
  | textEnd
  | lineStart (returns : Bool)
  | lineEnd (returns : Bool)
  | word (edge : WordEdge) (letters : CharSet)
  deriving DecidableEq, Repr

inductive Pattern where
  | empty
  | one (s : CharSet)
  | look (l : Look)
  | group (p : Pattern)
  | sequence (p q : Pattern)
  | choice (p q : Pattern)
  | repeated (p : Pattern) (least : Nat) (most : Option Nat)
  deriving DecidableEq, Repr

/-- Whether a word has its edge between characters inside words and outside them. -/
def WordEdge.holds (before after : Bool) : WordEdge → Bool
  | either => before != after
  | neither => before == after
  | start => !before && after
  | finish => before && !after
  | startHalf => !before
  | finishHalf => !after

/-- Whether the condition is met between two characters, either of which the text may lack. -/
def Look.holds (before after : Option Char) : Look → Bool
  | textStart => before.isNone
  | textEnd => after.isNone
  | lineStart returns =>
    before.all fun c => c == '\n' || (returns && c == '\r' && after != some '\n')
  | lineEnd returns =>
    after.all fun c =>
      if c == '\n' then !returns || before != some '\r' else returns && c == '\r'
  | word edge letters => edge.holds (before.any (letters.mem ·)) (after.any (letters.mem ·))

/-- What lies before and after each place of a text that follows `before`. -/
def surroundings (before : Option Char) : List Char → List (Option Char × Option Char)
  | [] => [(before, none)]
  | c :: s => (before, some c) :: surroundings (some c) s

abbrev Places := List Bool

namespace Places

def both (a b : Places) : Places := List.zipWith (· && ·) a b

def either (a b : Places) : Places := List.zipWith (· || ·) a b

/-- Some steps, or fewer if one of them leads nowhere new. -/
def steps (step : Places → Places) : Nat → Places → Places
  | 0, here => here
  | n + 1, here =>
    let there := step here
    if there = here then here else steps step n there

/-- The places that up to `n` steps lead to. -/
def within (step : Places → Places) (n : Nat) (here : Places) : Places :=
  steps (fun places => either places (step places)) n here

end Places

namespace Pattern

/-- Where the parts of `text` that fit a pattern can end. Steps that only add places come to an end
within as many of them as there are places. -/
def ends (text : List Char) : Pattern → Places → Places
  | empty, here => here
  | one s, here => false :: Places.both here (text.map (s.mem ·))
  | look l, here =>
    Places.both here ((surroundings none text).map fun around => l.holds around.1 around.2)
  | group p, here => p.ends text here
  | sequence p q, here => q.ends text (p.ends text here)
  | choice p q, here => Places.either (p.ends text here) (q.ends text here)
  | repeated p least most, here =>
    let more := match most with
      | some most => min (most - least) (text.length + 1)
      | none => text.length + 1
    Places.within (p.ends text) more (Places.steps (p.ends text) least here)

def isEmpty : Pattern → Bool
  | empty => true
  | _ => false

def set? : Pattern → Option CharSet
  | one s => some s
  | _ => none

/-- Patterns one after the other. -/
def sequences (ps : List Pattern) : Pattern :=
  match ps.filter (!·.isEmpty) with
  | [] => empty
  | p :: ps => ps.foldl sequence p

/-- Any of some patterns. Of sets of characters that is a set. -/
def choices (ps : List Pattern) : Pattern :=
  match ps.mapM set? with
  | some sets => one (.unions sets)
  | none =>
    match ps with
    | [] => one .empty
    | p :: ps => ps.foldl choice p

/-- Whether a part of the text fits. -/
def occursIn (p : Pattern) (text : List Char) : Bool :=
  (p.ends text (List.replicate (text.length + 1) true)).any id

end Pattern

end OpPolicy
