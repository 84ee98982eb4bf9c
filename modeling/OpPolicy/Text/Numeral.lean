set_option autoImplicit false

/-!
Decimal numerals as the command line and the package manager write them: ASCII digits after an
optional sign, leading zeros allowed, and a bound that the value must keep.
-/

namespace OpPolicy.Numeral

inductive Fault where
  | empty
  | badDigit
  | tooLarge
  | tooSmall
  deriving DecidableEq, Repr

def Fault.message : Fault → String
  | .empty => "cannot parse integer from empty string"
  | .badDigit => "invalid digit found in string"
  | .tooLarge => "number too large to fit in target type"
  | .tooSmall => "number too small to fit in target type"

def digit (c : Char) : Nat := c.toNat - 48

/-- Reads digits onto `n` and reports whichever comes first, a character that is no digit or a
value above `limit`. -/
def digits (limit : Nat) (beyond : Fault) : Nat → List Char → Except Fault Nat
  | n, [] => .ok n
  | n, c :: s =>
    if c.isDigit then
      let m := n * 10 + digit c
      if m ≤ limit then digits limit beyond m s else .error beyond
    else .error .badDigit

/-- A numeral of a type without negative values: only `+` may stand in front. -/
def unsigned (limit : Nat) (s : List Char) : Except Fault Nat :=
  match s with
  | [] => .error .empty
  | ['+'] => .error .badDigit
  | '+' :: ds => digits limit .tooLarge 0 ds
  | ds => digits limit .tooLarge 0 ds

/-- A numeral of the two's complement type whose greatest value is `limit`. -/
def signed (limit : Nat) (s : List Char) : Except Fault Int :=
  match s with
  | [] => .error .empty
  | ['+'] | ['-'] => .error .badDigit
  | '+' :: ds => (digits limit .tooLarge 0 ds).map Int.ofNat
  | '-' :: ds => (digits (limit + 1) .tooSmall 0 ds).map fun n => -Int.ofNat n
  | ds => (digits limit .tooLarge 0 ds).map Int.ofNat

def maxUInt32 : Nat := 4294967295

def maxInt32 : Nat := 2147483647

def maxInt64 : Nat := 9223372036854775807

def uint32? (s : String) : Option UInt32 :=
  (unsigned maxUInt32 s.toList).toOption.map UInt32.ofNat

def int32? (s : String) : Option Int := (signed maxInt32 s.toList).toOption

def int64 (s : String) : Except Fault Int := signed maxInt64 s.toList

/-- Whether a number fits into 64 bits of two's complement. -/
def fitsInt64 (n : Int) : Bool := -(maxInt64 + 1 : Int) ≤ n && n ≤ maxInt64

end OpPolicy.Numeral
