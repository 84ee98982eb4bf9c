import OpPolicy.Text.Numeral
import OpPolicy.Toml.Quoted
import OpPolicy.Toml.Value

set_option autoImplicit false

/-!
The numbers of TOML. Digits may be kept apart by single underscores. Integers are decimal, without
leading zeros, or have a base; they have to fit in 64 bits. A float has a fraction or an exponent,
or is infinite or no number; a positive float beyond every finite one is refused.
-/

namespace OpPolicy.Toml

/-- Digits that follow a digit, without the underscores between them. -/
def moreDigits (isDigit : Char → Bool) : List Char → Scan (List Char)
  | [] => some ([], [])
  | ['_'] => none
  | '_' :: d :: s => if isDigit d then (moreDigits isDigit s).push d else none
  | d :: s => if isDigit d then (moreDigits isDigit s).push d else some ([], d :: s)

def someDigits (isDigit : Char → Bool) : List Char → Scan (List Char)
  | [] => none
  | d :: s => if isDigit d then (moreDigits isDigit s).push d else none

/-- The digits before the point; a leading zero stands alone. -/
def wholeDigits : List Char → Scan (List Char)
  | '0' :: s => some (['0'], s)
  | s => someDigits Char.isDigit s

def decimal (ds : List Char) : Nat := Nat.ofDigitChars 10 ds 0

def inBase (base : Nat) (ds : List Char) : Nat :=
  ds.foldl (fun n d => base * n + (Text.hexDigit? d).getD 0) 0

/-- An integer after the letter of its base. -/
def scanInBase (base : Nat) (s : List Char) : Option (Value × List Char) := do
  let isDigit (c : Char) : Bool := ((Text.hexDigit? c).map (decide <| · < base)).getD false
  let (ds, rest) ← someDigits isDigit s
  let n : Int := inBase base ds
  if Numeral.fitsInt64 n then some (.integer n, rest) else none

/-- From here on numbers round to infinity: half a unit above the greatest finite float. -/
def floatBound : Nat := ((1 <<< 54) - 1) <<< 970

/-- Whether `digits` times ten to the power `exponent` rounds to infinity. -/
def overflows (digits : List Char) (exponent : Int) : Bool :=
  let digits := digits.dropWhile (· == '0')
  let magnitude := digits.length + exponent
  if digits.isEmpty || magnitude < 300 then false
  else if 400 < magnitude then true
  else if 0 ≤ exponent then floatBound ≤ decimal digits * Nat.pow 10 exponent.toNat
  else floatBound * Nat.pow 10 (-exponent).toNat ≤ decimal digits

/-- The exponent of a float, if its letter comes next. -/
def scanExponent (s : List Char) : Scan (Option Int) :=
  match s with
  | [] => some (none, [])
  | e :: t =>
    if e = 'e' ∨ e = 'E' then
      let negative := t.head? = some '-'
      let t := if negative ∨ t.head? = some '+' then t.drop 1 else t
      (someDigits Char.isDigit t).map fun r =>
        let n : Int := decimal r.1
        (some (if negative then -n else n), r.2)
    else some (none, e :: t)

/-- What follows the digits before the point decides between integer and float. -/
def scanTail (negative : Bool) (whole s : List Char) : Option (Value × List Char) := do
  let (fraction, s) ← match s with
    | '.' :: s => (someDigits Char.isDigit s).map fun r => (some r.1, r.2)
    | s => some (none, s)
  let (exponent, s) ← scanExponent s
  if fraction.isNone ∧ exponent.isNone then
    let n : Int := decimal whole
    let n := if negative then -n else n
    if Numeral.fitsInt64 n then some (.integer n, s) else none
  else
    let fraction := fraction.getD []
    if !negative ∧ overflows (whole ++ fraction) (exponent.getD 0 - fraction.length) then none
    else some (.float, s)

def scanUnsigned (negative : Bool) : List Char → Scan Value
  | 'i' :: 'n' :: 'f' :: s => some (.float, s)
  | 'n' :: 'a' :: 'n' :: s => some (.float, s)
  | s => (wholeDigits s).bind fun r => scanTail negative r.1 r.2

def scanNumber : List Char → Scan Value
  | '0' :: 'x' :: s => scanInBase 16 s
  | '0' :: 'o' :: s => scanInBase 8 s
  | '0' :: 'b' :: s => scanInBase 2 s
  | '+' :: s => scanUnsigned false s
  | '-' :: s => scanUnsigned true s
  | s => scanUnsigned false s

end OpPolicy.Toml
