import OpPolicy.Op.Reference
import OpPolicy.Package.Category
import OpPolicy.Text.Plain
import OpPolicy.Text.Utf8

set_option autoImplicit false

/-!
The values of arguments: numbers within bounds, and names of ops, modes and categories, which arrive
as bytes.
-/

namespace OpPolicy.Cli

/-- Why a value was not accepted. -/
inductive ValueFault where
  | notText
  | empty
  /-- No value of its kind. -/
  | invalid (reason : String)
  | refused (reason : String)
  deriving DecidableEq, Repr

/-- What is printed of an error. -/
def errorLine (reason : String) : String := s!"error: {reason}\n"

/-- What is said of a value that was refused. -/
def refusal (reason : String) : String := Text.plain (errorLine reason)

/-- A number between two bounds. -/
def numberValue (low high : Int) (s : String) : Except ValueFault Int :=
  match Numeral.int64 s with
  | .error fault => .error (.invalid fault.message)
  | .ok n =>
    if low ≤ n ∧ n ≤ high then .ok n
    else .error (.invalid s!"{n} is not in {low}..={high}")

/-- A value as text that is not empty. -/
def filledText (bytes : List UInt8) : Except ValueFault String :=
  match Utf8.strict? bytes with
  | none => .error .notText
  | some [] => .error .empty
  | some s => .ok (String.ofList s)

def opValue (t : OpTable) (bytes : List UInt8) : Except ValueFault OpId := do
  let s ← filledText bytes
  (t.ofReference s).mapError fun _ => .refused s!"no op named {s}"

/-- A mode's number or its name. A numeral is never a name. -/
def modeOf (s : String) : Except Error Mode :=
  match Numeral.int32? s with
  | some n => Mode.ofNumber n
  | none => Mode.ofName s

def modeNames : String := ", ".intercalate (Mode.all.map Mode.name)

def modeValue (bytes : List UInt8) : Except ValueFault Mode := do
  let s ← filledText bytes
  (modeOf s).mapError fun _ => .refused s!"invalid mode {s}, expected one of {modeNames}"

def flagsValue (bytes : List UInt8) : Except ValueFault Flags := do
  let s ← filledText bytes
  (Flags.ofList s).mapError fun e => .refused e.message

end OpPolicy.Cli
