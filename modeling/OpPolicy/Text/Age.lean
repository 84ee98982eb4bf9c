import OpPolicy.Text.AgeTable
import OpPolicy.Text.Ranges

set_option autoImplicit false

/-!
The age of a character: the version of Unicode in which it came.
-/

namespace OpPolicy.Text.Age

def versions : List String :=
  ["1.1", "2.0", "2.1", "3.0", "3.1", "3.2", "4.0", "4.1", "5.0", "5.1", "5.2", "6.0", "6.1",
    "6.2", "6.3", "7.0", "8.0", "9.0", "10.0", "11.0", "12.0", "12.1", "13.0", "14.0", "15.0",
    "15.1", "16.0", "17.0"]

/-- A version by its number, or by the letter `v` and the digits of its number. -/
def ofName? (name : String) : Option Nat :=
  versions.findIdx? fun version =>
    name = version || name.toList = 'v' :: version.toList.filter (· ≠ '.')

/-- The ages of the code points. Those without a character are past all versions. -/
def runs : Runs Nat := .ofTable 2 (·.toNat?) ageTable

/-- The code points that have characters since a version or earlier. -/
def ranges (version : Nat) : Ranges := .ofRuns (· ≤ version) runs

end OpPolicy.Text.Age
