import OpPolicy.Device.Output

set_option autoImplicit false

/-!
The roster of connected devices as adb prints it: a header line, then a row for each device.
-/

namespace OpPolicy.Roster

/-- The serial of a row, if the row speaks of a device. -/
def serial? (row : List Char) : Option String :=
  if Text.contains row "device".toList then
    (Text.firstWord? Text.isAsciiBlank row).map String.ofList
  else none

def serials (text : List Char) : List String := ((text.splitOn '\n').drop 1).filterMap serial?

def ofOutput (o : Output) : Except Error (List String) :=
  match serials o.stdoutText with
  | [] => .error .noAdbDevice
  | found => .ok found

end OpPolicy.Roster
