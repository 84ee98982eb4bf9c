import OpPolicy.Pattern.Basic

set_option autoImplicit false

/-!
The size of a pattern: the memory in octets of a machine that looks for it in UTF-8. A state takes
32 of them, a way out of a state takes 8 if the state reads and 4 if it does not.
-/

namespace OpPolicy

namespace CharSet

/-- The code points of UTF-8 by how many octets follow the first one: with the base of the first
octet, the first and the last code point. Surrogates are in none of the bands. -/
def bands : List (Nat × Nat × Nat × Nat) :=
  [(0, 0, 0, 0x7F), (1, 0xC0, 0x80, 0x7FF), (2, 0xE0, 0x800, 0xD7FF), (2, 0xE0, 0xE000, 0xFFFF),
    (3, 0xF0, 0x10000, 0x10FFFF)]

/-- The octets of a range of code points, as sequences of ranges. Each octet after the first one
holds six bits. -/
def octets : (more : Nat) → (first last : Nat) → List (List (Nat × Nat))
  | 0, first, last => [[(first, last)]]
  | more + 1, first, last =>
    let unit := 64 ^ (more + 1)
    let low := first / unit
    let high := last / unit
    if low = high then (octets more (first % unit) (last % unit)).map ((low, low) :: ·)
    else
      let begun := first % unit ≠ 0
      let cut := last % unit ≠ unit - 1
      let start := if begun then octets more (first % unit) (unit - 1) else []
      let finish := if cut then octets more 0 (last % unit) else []
      let low' := if begun then low + 1 else low
      let high' := if cut then high - 1 else high
      let middle :=
        if low' ≤ high' then [(low', high') :: List.replicate (more + 1) (0, 63)] else []
      start.map ((low, low) :: ·) ++ middle ++ finish.map ((high, high) :: ·)

/-- The sequences of octets of the characters of a set, in ascending order. -/
def sequences (ranges : Text.Ranges) : List (List (Nat × Nat)) :=
  ranges.flatMap fun r =>
    bands.flatMap fun (more, base, first, last) =>
      let first := max first r.1
      let last := min last r.2
      if last < first then []
      else (octets more first last).map fun
        | o :: os => (base + o.1, base + o.2) :: os
        | [] => []

/-- How many beginnings of sequences there are, those in ascending order counted once. -/
def beginnings (last : List (Nat × Nat)) : List (List (Nat × Nat)) → Nat
  | [] => 0
  | s :: rest => s.length - shared last s + beginnings s rest
where
  shared : List (Nat × Nat) → List (Nat × Nat) → Nat
    | a :: as, b :: bs => if a = b then shared as bs + 1 else 0
    | _, _ => 0

/-- The size of a machine that reads a character backwards: a chain of states for one character, two
states for characters of ASCII, and else a state for every beginning of a sequence of octets. -/
def size (s : CharSet) : Nat :=
  let ranges := s.ranges
  match ranges with
  | [(first, last)] =>
    if first = last then 32 * (Char.ofNat first).utf8Size else ofRanges ranges
  | _ => ofRanges ranges
where
  ofRanges (ranges : Text.Ranges) : Nat :=
    if ranges.all (·.2 ≤ 0x7F) then 64 + 8 * ranges.length
    else
      let all := sequences ranges
      64 + 32 * beginnings [] all + 4 * all.length

end CharSet

namespace Pattern

/-- Whether nothing but the empty text can fit. -/
def isBlank : Pattern → Bool
  | empty | look _ => true
  | one _ => false
  | group p => p.isBlank
  | sequence p q | choice p q => p.isBlank && q.isBlank
  | repeated p _ most => p.isBlank || most = some 0

/-- Whether the empty text can fit. -/
def allowsBlank : Pattern → Bool
  | empty | look _ => true
  | one _ => false
  | group p => p.allowsBlank
  | sequence p q => p.allowsBlank && q.allowsBlank
  | choice p q => p.allowsBlank || q.allowsBlank
  | repeated p least _ => p.allowsBlank || least = 0

def isChoice : Pattern → Bool
  | choice _ _ => true
  | _ => false

/-- The size of a repetition of a pattern that has a size: as many copies as it counts, with a state
before each that may be left out. -/
def repeatedSize (size : Nat) (allowsBlank : Bool) : (least : Nat) → (most : Option Nat) → Nat
  | 0, none => size + if allowsBlank then 112 else 40
  | least, none => least * size + 40
  | least, some most =>
    if least = most then max (least * size) 32
    else max (least * size) (if most = 1 then 0 else 32) + (most - least) * (size + 40) + 32

/-- The size of a pattern. One that only the empty text fits is not repeated. -/
def size : Pattern → Nat
  | empty | look _ => 32
  | one s => s.size
  | group p => p.size + 64
  | sequence p q => p.size + q.size
  | choice p q => p.size + q.size + if p.isChoice then 4 else 72
  | repeated p least most =>
    if p.isBlank then
      repeatedSize p.size true (min least 1) (some (min (most.getD 1) 1))
    else repeatedSize p.size p.allowsBlank least most

/-- The states around a pattern: they pass over what comes before, mark both ends and end the
search. -/
def frameSize : Nat := 208

def sizeLimit : Nat := 10485760

def isSmall (p : Pattern) : Bool := frameSize + p.size ≤ sizeLimit

end Pattern

end OpPolicy
