import OpPolicy.Config.Project
import OpPolicy.Host.Path
import OpPolicy.Host.Question
import OpPolicy.Package.Allowlist

set_option autoImplicit false

/-!
The setting that the tool works in: variables, programs and the project configuration, which each
setting provides in its own way, and the project's directories and files, which follow from them.
-/

namespace OpPolicy

namespace Setting

inductive Question where
  | environment (name : String)
  | program (name : String)
  | project
  | host (q : Host.Question)

abbrev Question.Answer : Question → Type
  | .environment _ | .program _ => Option String
  | .project => Except Error Config.Project
  | .host q => q.Answer

end Setting

/-- A program that asks things of its setting. -/
abbrev Setting := Dialogue Setting.Question Setting.Question.Answer

namespace Setting

/-- The variable that names the project's directory. -/
def homeVariable : String := "APPOPS_PROJECT_HOME"

def configName : String := "appops.toml"

def outputName : String := "appops_out"

/-- Ask the machine itself. -/
def ofHost {α : Type} (h : Host α) : Setting α := h.through fun q => .put (Question.host q)

def environment? (name : String) : Setting (Option String) := .put (Question.environment name)

def requireEnvironment (name : String) : Setting (Except Error String) :=
  (environment? name).bind fun
    | some value => .done (.ok value)
    | none => .done (.error (.missingEnv name))

def program? (name : String) : Setting (Option String) := .put (Question.program name)

def requireProgram (name : String) : Setting (Except Error String) :=
  (program? name).bind fun
    | some path => .done (.ok path)
    | none => .done (.error (.missingBin name))

def project : Setting (Except Error Config.Project) := .put Question.project

/-- The project's directory, given what its variable says. -/
def projectDirOf : Option String → Host (Except Error String)
  | none => .done (.error (.missingEnv homeVariable))
  | some dir =>
    .ask (.look dir) fun
      | some .directory => .done (.ok dir)
      | _ => .done (.error (.generic s!"{homeVariable} is {dir}, which is not a directory"))

def projectDir : Setting (Except Error String) :=
  (environment? homeVariable).bind fun dir => ofHost (projectDirOf dir)

def projectChild (child : String) : Setting (Except Error String) :=
  projectDir.bind fun dir => .done (dir.map (Host.Path.join · child))

def configFile : Setting (Except Error String) := projectChild configName

def outputDir : Setting (Except Error String) := projectChild outputName

def outputChild (child : String) : Setting (Except Error String) :=
  outputDir.bind fun dir => .done (dir.map (Host.Path.join · child))

/-- The user's directory for the tool's own files, made if it is not there. -/
def userDir : Host (Except Error String) :=
  .ask (.environment "HOME") fun home =>
    .ask .accountHome fun account =>
      .ask (.environment "XDG_CONFIG_HOME") fun config =>
        match home.filter (· ≠ "") <|> account with
        | none => .done (.error .noBaseDirs)
        | some home =>
          let config := (config.filter Host.Path.isAbsolute).getD (Host.Path.join home ".config")
          let dir := Host.Path.join config "appops"
          (Host.ensureDirectory dir).bind fun r => .done (r.map fun _ => dir)

/-- A path of the configuration: one that is not absolute starts at the project's directory. -/
def relative (path : String) : Setting (Except Error String) :=
  if Host.Path.isAbsolute path then .done (.ok path) else projectChild path

/-- The whitelist of the configuration: the names it holds and those of its list file. -/
def whitelist (packages : Config.Packages) : Setting (Except Error Allowlist) :=
  let named := Allowlist.ofList packages.whitelist
  match packages.whitelistFile with
  | none => .done (.ok named)
  | some file =>
    Dialogue.andThen (relative file) fun path =>
      .ask (.host (.readFile path)) fun bytes =>
        match bytes with
        | .error e => .done (.error (unreadable path e))
        | .ok bytes =>
          match named.read bytes with
          | (.error e, _) => .done (.error (unreadable path e))
          | (.ok _, all) => .done (.ok all)
where
  unreadable (path : String) (e : IoError) : Error :=
    .invalidConfig path s!"failed to read whitelist file: {e.message}"

/-- The program by which adb is run. -/
def adbProgram (adb : Config.AdbAccess) : Setting (Except Error String) :=
  match adb.executable with
  | some path => .done (.ok path)
  | none => requireProgram "adb"

/-- The serial of the device to talk to, if one is chosen. -/
def adbSerial (adb : Config.AdbAccess) : Setting (Option String) :=
  match adb.serial with
  | some serial => .done (some serial)
  | none => environment? "ANDROID_SERIAL"

end Setting

end OpPolicy
