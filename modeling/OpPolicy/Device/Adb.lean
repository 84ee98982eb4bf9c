import OpPolicy.Device.Roster
import OpPolicy.Device.Shell
import OpPolicy.Host.Setting

set_option autoImplicit false

/-!
Connections to devices through the adb program. The project configuration says how it is run and
may forbid it; if the configuration cannot be read, the environment alone decides.
-/

namespace OpPolicy

structure Adb where
  executable : String
  serial : Option String
  deriving DecidableEq, Repr

namespace Adb

def ofEnvironment : Setting (Except Error Adb) :=
  Dialogue.andThen (Setting.requireProgram "adb") fun executable =>
    (Setting.environment? "ANDROID_SERIAL").bind fun serial => .done (.ok ⟨executable, serial⟩)

def ofProject (project : Config.Project) : Setting (Except Error Adb) :=
  if project.canAdb then
    Dialogue.andThen (Setting.adbProgram project.adb) fun executable =>
      (Setting.adbSerial project.adb).bind fun serial => .done (.ok ⟨executable, serial⟩)
  else .done (.error .adbDisabled)

def connect : Setting (Except Error Adb) :=
  Setting.project.bind fun
    | .ok project => ofProject project
    | .error e =>
      .note ⟨.warn, .adb, s!"failed to load project config, using env for adb: {e.message}"⟩
        ofEnvironment

/-- Run the adb program with some arguments. -/
def run (adb : Adb) (arguments : List String) : Host Reply :=
  let words := " ".intercalate (adb.executable :: arguments)
  .note ⟨.debug, .command, s!"Running command: `{words}`"⟩
    (.put (Host.Question.run adb.executable arguments))

/-- The arguments that send a command to the device's shell. -/
def shellArguments (adb : Adb) (cmd : String) : List String :=
  (adb.serial.map fun serial => ["-s", serial]).getD [] ++ ["shell", cmd]

def shell (adb : Adb) (cmd : String) : Host Reply := adb.run (adb.shellArguments cmd)

/-- Let the device answer a program's shell commands. -/
def send {α : Type} (adb : Adb) (m : Shell α) : Host α := m.through adb.shell

/-- The serials of the connected devices, whichever of them is chosen. -/
def devices (adb : Adb) : Host (Except Error (List String)) :=
  (adb.run ["devices", "-l"]).bind fun
    | .error e => .done (.error (.io e))
    | .ok o => .done (Roster.ofOutput o)

end Adb

end OpPolicy
