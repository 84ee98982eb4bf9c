import OpPolicy.Error
import OpPolicy.Text.Split
import OpPolicy.Text.Utf8

set_option autoImplicit false

/-!
What a finished command leaves behind, and how a failed adb command is classified: no device at
all, a device that is not there, or any other failure with its status and its trimmed error text.
-/

namespace OpPolicy

inductive Exit where
  | code (n : Int)
  | signal (n : Int)
  deriving DecidableEq, Repr

structure Output where
  exit : Exit
  stdout : List UInt8
  stderr : List UInt8
  deriving DecidableEq, Repr

/-- A command's output, or why it could not be run. -/
abbrev Reply := Except IoError Output

namespace Output

/-- An output that says nothing and reports success. -/
def silent : Output := ⟨.code 0, [], []⟩

def ok (o : Output) : Bool := o.exit = .code 0

/-- The exit code, which a command killed by a signal has not. -/
def code? (o : Output) : Option Int :=
  match o.exit with
  | .code n => some n
  | .signal _ => none

def stdoutText (o : Output) : List Char := Utf8.lossy o.stdout

def stderrText (o : Output) : List Char := Utf8.lossy o.stderr

def stdoutContains (o : Output) (needle : String) : Bool :=
  Text.contains o.stdoutText needle.toList

def failure (o : Output) : Error :=
  .commandFailed (o.code?.getD (-1)) (String.ofList (Text.trim o.stderrText))

/-- The output of a command that succeeded. -/
def checked (o : Output) : Except Error Output := if o.ok then .ok o else .error o.failure

/-- At least one blank, and what follows the blanks. -/
def skipBlanks? : List Char → Option (List Char)
  | [] => none
  | c :: s => if Text.isBlank c then some (Text.trimStart s) else none

/-- The serial of a report that stands at the very start of a text. -/
def missingDeviceHere? (s : List Char) : Option (List Char) := do
  let s ← "device".toList.isPrefixOf? s
  let s ← ['\x27'].isPrefixOf? (← skipBlanks? s)
  let serial := s.takeWhile (· ≠ '\x27')
  if serial = [] then none
  let s ← ['\x27'].isPrefixOf? (s.dropWhile (· ≠ '\x27'))
  let s ← "not".toList.isPrefixOf? (← skipBlanks? s)
  let _ ← "found".toList.isPrefixOf? (← skipBlanks? s)
  return serial

/-- The serial of the first report of a device that was not found. -/
def missingDevice? : List Char → Option (List Char)
  | [] => none
  | c :: s =>
    match missingDeviceHere? (c :: s) with
    | some serial => some serial
    | none => missingDevice? s

/-- The output of an adb command that succeeded, else the reason in its error text. -/
def checkedByAdb (o : Output) : Except Error Output :=
  if o.ok then .ok o
  else if Text.contains o.stderrText "no devices/emulators".toList then .error .noAdbDevice
  else
    match missingDevice? o.stderrText with
    | some serial => .error (.adbDeviceNotFound (String.ofList serial))
    | none => .error o.failure

end Output

end OpPolicy
