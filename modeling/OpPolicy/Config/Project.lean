import OpPolicy.Config.Section

set_option autoImplicit false

/-!
The project configuration: whether and how adb may be used, and how packages are told apart. Every
key may be absent, and a value of another type is an error, except that adb is allowed unless the
file clearly says no.
-/

namespace OpPolicy.Config

/-- How adb is reached, as far as the file says. -/
structure AdbAccess where
  executable : Option String := none
  serial : Option String := none
  deriving DecidableEq, Repr

/-- The packages that render web content unless the file names others. -/
def defaultWebViewProviders : List String := ["com.google.android.webview", "com.android.webview"]

structure Packages where
  hostPackage : Option String := none
  whitelist : List String := []
  whitelistFile : Option String := none
  webViewProviders : List String := defaultWebViewProviders
  deriving DecidableEq, Repr

structure Project where
  canAdb : Bool := true
  adb : AdbAccess := {}
  packages : Packages := {}
  deriving DecidableEq, Repr

def AdbAccess.ofSection (s : Section) : Except Error AdbAccess := do
  let executable ← s.typedString "executable"
  let serial ← s.typedString "serial"
  return { executable, serial }

def Packages.ofSection (s : Section) : Except Error Packages := do
  let hostPackage ← s.typedString "host-package"
  let whitelist ← s.typedStrings "whitelist"
  let whitelistFile ← s.typedString "whitelist-file"
  let providers ← s.typedStrings "web-view-providers"
  return {
    hostPackage
    whitelist := whitelist.getD []
    whitelistFile
    webViewProviders := providers.getD defaultWebViewProviders }

/-- Read a part of the file, or take its default if the part is absent. -/
def part {α : Type} (fallback : α) (read : Section → Except Error α) :
    Option Section → Except Error α
  | none => .ok fallback
  | some s => read s

def Project.ofSection (s : Section) : Except Error Project := do
  let access ← s.typedSubsection "device-access"
  let adb ← part {} (fun access => do
    part {} AdbAccess.ofSection (← access.typedSubsection "adb")) access
  let packages ← part {} Packages.ofSection (← s.typedSubsection "packages")
  return { canAdb := s.boolOr "can-adb" true, adb, packages }

end OpPolicy.Config
