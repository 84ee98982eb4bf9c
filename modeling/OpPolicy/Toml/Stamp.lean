import OpPolicy.Toml.Moment
import OpPolicy.Toml.Value

set_option autoImplicit false

/-!
Dates in the form of tables. Below the root, a table whose first key is the reserved one stands for
the date that the key's string spells, and its other entries are passed over unread. If the key
holds anything else, the document is refused. The date may be written a little more freely than
one that stands for itself: there is an hour 24, and an offset is only bounded as a whole.
-/

namespace OpPolicy.Toml

def stampKey : String := "$__toml_private_datetime"

def minutesOfDay : Nat := 24 * 60

/-- What follows an offset of at most a day, if one comes next. -/
def scanStampOffset : List Char → Option (List Char)
  | [] => some []
  | c :: s =>
    if c = 'Z' ∨ c = 'z' then some s
    else if c = '+' ∨ c = '-' then do
      let (hours, s) ← scanTwo 0 99 s
      let (minutes, s) ← scanTwo 0 99 (← expect ':' s)
      if hours * 60 + minutes ≤ minutesOfDay then some s else none
    else none

/-- Whether a text is a date, a time, or both with an optional offset. -/
def isStamp : List Char → Bool
  | a :: b :: ':' :: s => scanTime 24 (a :: b :: ':' :: s) == some []
  | a :: b :: c :: d :: '-' :: s =>
    match (number? [a, b, c, d]).bind (scanDate · s) with
    | none => false
    | some [] => true
    | some (t :: s) =>
      (t == 'T' || t == 't' || t == ' ') && (scanTime 24 s).bind scanStampOffset == some []
  | _ => false

/-- The date that the reserved key's value stands for. -/
def Value.stamp? : Value → Option Value
  | .string s => if isStamp s.toList then some .dateTime else none
  | _ => none

mutual

/-- A value with dates in the place of the tables that stand for them. -/
def Value.settle? : Value → Option Value
  | .array items => (Value.settleAll? items).map .array
  | .table [] => some (.table [])
  | .table ((key, v) :: es) =>
    if key = stampKey then v.stamp?
    else do
      let v ← v.settle?
      return .table ((key, v) :: (← Value.settleEntries? es))
  | v => some v

def Value.settleAll? : List Value → Option (List Value)
  | [] => some []
  | v :: vs => do return (← v.settle?) :: (← Value.settleAll? vs)

def Value.settleEntries? : List (String × Value) → Option (List (String × Value))
  | [] => some []
  | (key, v) :: es => do return (key, ← v.settle?) :: (← Value.settleEntries? es)

end

end OpPolicy.Toml
