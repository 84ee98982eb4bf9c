import OpPolicy.Toml.Quoted

set_option autoImplicit false

/-!
The dates and times of TOML: a date, a time, or both with an optional offset. Days must exist in
their month, and a minute may have a leap second.
-/

namespace OpPolicy.Toml

def number? (ds : List Char) : Option Nat :=
  if ds.all Char.isDigit then some (Nat.ofDigitChars 10 ds 0) else none

/-- Two digits with a value between two bounds. -/
def scanTwo (low high : Nat) : List Char → Option (Nat × List Char)
  | a :: b :: s => do
    let n ← number? [a, b]
    if low ≤ n ∧ n ≤ high then some (n, s) else none
  | _ => none

def expect (c : Char) : List Char → Option (List Char)
  | [] => none
  | d :: s => if d = c then some s else none

def isLeapYear (year : Nat) : Bool := year % 4 == 0 && (year % 100 != 0 || year % 400 == 0)

def daysIn (year month : Nat) : Nat :=
  if month = 2 then (if isLeapYear year then 29 else 28)
  else if month = 4 ∨ month = 6 ∨ month = 9 ∨ month = 11 then 30
  else 31

/-- What follows a time of day. -/
def scanTime (lastHour : Nat) (s : List Char) : Option (List Char) := do
  let (_, s) ← scanTwo 0 lastHour s
  let (_, s) ← scanTwo 0 59 (← expect ':' s)
  let (_, s) ← scanTwo 0 60 (← expect ':' s)
  match s with
  | '.' :: d :: s => if d.isDigit then some (s.dropWhile Char.isDigit) else none
  | '.' :: [] => none
  | s => some s

/-- What follows an offset, if one comes next. -/
def scanOffset : List Char → Option (List Char)
  | [] => some []
  | c :: s =>
    if c = 'Z' ∨ c = 'z' then some s
    else if c = '+' ∨ c = '-' then do
      let (_, s) ← scanTwo 0 23 s
      let (_, s) ← scanTwo 0 59 (← expect ':' s)
      some s
    else some (c :: s)

/-- What follows a time of day and its offset, if a delimiter and a time come next. -/
def scanClock : List Char → Option (List Char)
  | [] => some []
  | d :: s =>
    if (d = 'T' ∨ d = 't' ∨ d = ' ') ∧ startsTime s then (scanTime 23 s).bind scanOffset
    else some (d :: s)
where
  startsTime (s : List Char) : Bool := ((scanTwo 0 23 s).bind fun r => expect ':' r.2).isSome

/-- What follows a date, the year of which has been read. -/
def scanDate (year : Nat) (s : List Char) : Option (List Char) := do
  let (month, s) ← scanTwo 1 12 s
  let (_, s) ← scanTwo 1 (daysIn year month) (← expect '-' s)
  some s

/-- What follows a date or a time. There is none unless four digits and a hyphen or two digits and
a colon come next, and then there has to be one. -/
def scanMoment? : List Char → Option (Option (List Char))
  | a :: b :: ':' :: s =>
    if a.isDigit ∧ b.isDigit then some (scanTime 23 (a :: b :: ':' :: s)) else none
  | a :: b :: c :: d :: '-' :: s =>
    (number? [a, b, c, d]).map fun year => (scanDate year s).bind scanClock
  | _ => none

end OpPolicy.Toml
