set_option autoImplicit false

namespace OpPolicy.Text

/-- The value of a hexadecimal digit, in either case. -/
def hexDigit? (c : Char) : Option Nat :=
  if c.isDigit then some (c.toNat - 48)
  else if 'a' ≤ c ∧ c ≤ 'f' then some (c.toNat - 87)
  else if 'A' ≤ c ∧ c ≤ 'F' then some (c.toNat - 55)
  else none

/-- The value of hexadecimal digits, the first of which counts most. -/
def hex? (ds : List Char) : Option Nat :=
  ds.foldlM (fun n d => (hexDigit? d).map (16 * n + ·)) 0

/-- The character of a code point in hexadecimal. -/
def codePoint? (ds : List Char) : Option Char := do
  let n ← hex? ds
  if n.isValidChar then some (Char.ofNat n) else none

end OpPolicy.Text
