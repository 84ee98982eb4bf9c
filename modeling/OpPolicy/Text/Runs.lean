import OpPolicy.Text.Hex

set_option autoImplicit false

/-!
Properties of characters as runs: in ascending order, the first code point of each run and the value
that it has with all those up to the next run.
-/

namespace OpPolicy.Text

abbrev Runs (α : Type) := List (Nat × α)

namespace Runs
variable {α : Type}

/-- The value of the last run that starts at or before a code point, or `before` if none does. -/
def seek (n : Nat) (before : α) : Runs α → α
  | [] => before
  | (first, a) :: rest => if first ≤ n then seek n a rest else before

/-- The words of a table. -/
def words (table : String) : List (List Char) :=
  (table.toList.map fun c => if c = '\n' then ' ' else c).splitOn ' '

/-- Read a table of runs, each a hexadecimal code point and the code of a value. -/
def ofTable (codeLength : Nat) (ofCode? : String → Option α) (table : String) : Runs α :=
  (words table).filterMap fun word => do
    let digits := word.take (word.length - codeLength)
    return (← hex? digits, ← ofCode? (String.ofList (word.drop digits.length)))

end Runs

end OpPolicy.Text
