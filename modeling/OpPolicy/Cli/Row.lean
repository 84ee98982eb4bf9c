import OpPolicy.Op.Basic
import OpPolicy.Package.App

set_option autoImplicit false

/-!
Ops and apps as lines of text, in columns.
-/

namespace OpPolicy.Cli

/-- A text filled up to a width, at its end. -/
def padEnd (width : Nat) (s : String) : String := s.pushn ' ' (width - s.length)

/-- A text filled up to a width, at its start. -/
def padStart (width : Nat) (s : String) : String := "".pushn ' ' (width - s.length) ++ s

def lines (ls : List String) : String := String.join (ls.map fun l => l ++ "\n")

/-- A value that may be absent. -/
def cell (value : Option String) : String := value.getD "-"

def opRow (row : OpRow) : String :=
  " ".intercalate [
    padStart 3 (toString row.op),
    padEnd 36 row.name,
    padEnd 40 (cell row.publicName),
    "switch=" ++ padEnd 3 (toString row.switch),
    "perm=" ++ cell row.permission,
    "restriction=" ++ cell row.restriction,
    "default=" ++ row.defaultMode.name,
    "bypass=" ++ toString row.systemBypass,
    "reset=" ++ toString row.resettable]

def appRow (app : App) : String :=
  s!"{padEnd 6 (toString app.uid)} {app.name} [{app.flags.render}]"

end OpPolicy.Cli
