set_option autoImplicit false

/-!
UTF-8 read from raw bytes. Bytes that start a character and are then broken off, and bytes that
can start none, are one ill-formed part each; the lenient reading puts U+FFFD in the place of every
such part, the strict reading refuses the text.
-/

namespace OpPolicy.Utf8

/-- What the bytes read so far owe: so many more bytes, the next of them between two bounds. -/
inductive Pending where
  | none
  | owed (value : Nat) (more : Nat) (low high : Nat)
  deriving DecidableEq, Repr

def continuation (b : UInt8) : Nat := b.toNat % 64

/-- What the first byte of a longer character owes. The bounds keep out overlong forms,
surrogates and what lies beyond U+10FFFF. -/
def lead? (b : UInt8) : Option Pending :=
  let n := b.toNat
  if n < 0xC2 then none
  else if n < 0xE0 then some (.owed (n - 0xC0) 1 0x80 0xBF)
  else if n = 0xE0 then some (.owed 0 2 0xA0 0xBF)
  else if n = 0xED then some (.owed 0xD 2 0x80 0x9F)
  else if n < 0xF0 then some (.owed (n - 0xE0) 2 0x80 0xBF)
  else if n = 0xF0 then some (.owed 0 3 0x90 0xBF)
  else if n < 0xF4 then some (.owed (n - 0xF0) 3 0x80 0xBF)
  else if n = 0xF4 then some (.owed 4 3 0x80 0x8F)
  else none

/-- The characters of a byte string; `none` stands for an ill-formed part. -/
def parts (p : Pending) : List UInt8 → List (Option Char)
  | [] => if p = .none then [] else [none]
  | b :: s =>
    let start : List (Option Char) :=
      if b < 0x80 then some (Char.ofNat b.toNat) :: parts .none s
      else match lead? b with
        | some q => parts q s
        | none => none :: parts .none s
    match p with
    | .none => start
    | .owed value more low high =>
      if low ≤ b.toNat ∧ b.toNat ≤ high then
        let value := value * 64 + continuation b
        if more ≤ 1 then some (Char.ofNat value) :: parts .none s
        else parts (.owed value (more - 1) 0x80 0xBF) s
      else none :: start

/-- Every ill-formed part becomes one U+FFFD. -/
def lossy (bytes : List UInt8) : List Char :=
  (parts .none bytes).map (·.getD '\uFFFD')

def strict? (bytes : List UInt8) : Option (List Char) :=
  (parts .none bytes).mapM id

end OpPolicy.Utf8
