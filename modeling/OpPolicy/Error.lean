set_option autoImplicit false

/-!
Everything that can go wrong, by its cause, and the text that reports it. An error from the package
inventory or from the authority is wrapped at most once.
-/

namespace OpPolicy

/-- Why the host refused something. -/
inductive IoError where
  | notFound
  | exists
  | notADirectory
  | isADirectory
  | permissionDenied
  | notExecutable
  | notText
  | other (text : String)
  deriving DecidableEq, Repr

def IoError.message : IoError → String
  | .notFound => "No such file or directory (os error 2)"
  | .exists => "File exists (os error 17)"
  | .notADirectory => "Not a directory (os error 20)"
  | .isADirectory => "Is a directory (os error 21)"
  | .permissionDenied => "Permission denied (os error 13)"
  | .notExecutable => "Exec format error (os error 8)"
  | .notText => "stream did not contain valid UTF-8"
  | .other text => text

inductive Error where
  | configuration (detail : String)
  | notFound (what : String)
  | provider (detail : String)
  | remoteAuthority (detail : String)
  | unsupported (call : String)
  | missingBin (name : String)
  | missingEnv (name : String)
  | io (cause : IoError)
  | commandFailed (status : Int) (stderr : String)
  | noBaseDirs
  | noAdbDevice
  | adbDeviceNotFound (serial : String)
  | adbDisabled
  | generic (text : String)
  | invalidConfig (file detail : String)
  | missingFile (path : String)
  deriving DecidableEq, Repr

namespace Error

def message : Error → String
  | configuration detail => s!"invalid op table: {detail}"
  | notFound what => s!"not found: {what}"
  | provider detail => s!"package inventory failed: {detail}"
  | remoteAuthority detail => s!"app ops authority failed: {detail}"
  | unsupported call => s!"operation not supported by this authority: {call}"
  | missingBin name => s!"required binary `{name}` not available to context"
  | missingEnv name => s!"missing required env var: {name}"
  | io cause => cause.message
  | commandFailed status stderr => s!"command failed with status {status}: {stderr}"
  | noBaseDirs => "failed to get basedirs"
  | noAdbDevice => "no adb device connected"
  | adbDeviceNotFound serial => s!"adb device {serial} not found"
  | adbDisabled => "adb disabled by configuration file"
  | generic text => s!"generic error: {text}"
  | invalidConfig file detail => s!"invalid config {file}: {detail}"
  | missingFile path => s!"file {path} doesn't exist"

def isProvider : Error → Bool
  | provider _ => true
  | _ => false

/-- As a failure of the package inventory. -/
def intoProvider : Error → Error
  | provider detail => provider detail
  | e => provider e.message

/-- As a failure of the authority. A call that the authority cannot express stays what it is, so
that it can be told from one that was refused. -/
def intoRemote : Error → Error
  | remoteAuthority detail => remoteAuthority detail
  | unsupported call => unsupported call
  | e => remoteAuthority e.message

/-- The text by which readers of the package cache learn of a failed listing. -/
def providerDetail : Error → String
  | provider detail => detail
  | e => e.message

theorem intoProvider_eq (e : Error) : e.intoProvider = provider e.providerDetail := by
  cases e <;> rfl

@[simp] theorem intoProvider_intoProvider (e : Error) :
    e.intoProvider.intoProvider = e.intoProvider := by
  cases e <;> rfl

end Error

end OpPolicy
