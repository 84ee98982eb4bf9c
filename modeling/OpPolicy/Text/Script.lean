import OpPolicy.Text.Ranges
import OpPolicy.Text.ScriptTable

set_option autoImplicit false

/-!
The script of a character, and the scripts that use it, by their codes of four letters.
-/

namespace OpPolicy.Text.Script

def runs : Runs String := .ofTable 4 some scriptTable

def unknown : String := "Zzzz"

def ofChar (c : Char) : String := runs.seek c.toNat unknown

def ranges (code : String) : Ranges := .ofRuns (· = code) runs

def codes (fuel : Nat) (s : List Char) : List String :=
  match fuel, s with
  | fuel + 1, a :: b :: c :: d :: s => String.ofList [a, b, c, d] :: codes fuel s
  | _, _ => []

/-- The ranges of characters that are used otherwise than by their script alone. -/
def uses : List ((Nat × Nat) × List String) :=
  (Runs.words scriptUses).filterMap fun word =>
    match word.splitOn ':' with
    | [range, scripts] => (Ranges.ofWord? range).map fun r => (r, codes scripts.length scripts)
    | _ => none

/-- The code points that a script uses. -/
def usedRanges (code : String) : Ranges :=
  Ranges.union ((uses.filter (·.2.contains code)).map Prod.fst)
    (Ranges.intersection (ranges code) (Ranges.complement (uses.map Prod.fst)))

/-- Whether a script uses a character. -/
def isUsedBy (code : String) (c : Char) : Bool :=
  match uses.find? fun use => use.1.1 ≤ c.toNat && c.toNat ≤ use.1.2 with
  | some use => use.2.contains code
  | none => ofChar c == code

/-- The codes of the scripts with their names, the code itself among them. -/
def names : List (String × List String) :=
  (Runs.words scriptNames).map fun word =>
    let parts := (word.splitOn '=').map String.ofList
    (parts.headD "", parts.map String.toLower)

def ofName? (name : String) : Option String :=
  (names.find? fun script => script.2.contains name).map Prod.fst

end OpPolicy.Text.Script
