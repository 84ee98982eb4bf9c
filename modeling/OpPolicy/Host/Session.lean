import OpPolicy.Host.Search
import OpPolicy.Host.Setting
import OpPolicy.Text.Quoted

set_option autoImplicit false

/-!
The setting of a session: its environment, its search path and the project file. A program that was
found stays found, and a configuration that was read stays as it was; what failed is tried again.
-/

namespace OpPolicy

structure Session where
  programs : List (String × String) := []
  project : Option Config.Project := none

namespace Session

/-- Read the project file. No project directory at all, or no file in it, means the defaults. -/
def loadProject : Host (Except Error Config.Project) :=
  .ask (.environment Setting.homeVariable) fun
    | none => .done (.ok {})
    | some dir =>
      Dialogue.andThen (Setting.projectDirOf (some dir)) fun dir =>
        let path := Host.Path.join dir Setting.configName
        .ask (.look path) fun
          | none =>
            .note ⟨.debug, .context, s!"no project config at {Text.display path}, using defaults"⟩
              (.done (.ok {}))
          | some _ =>
            Dialogue.andThen (Host.readText path) fun text =>
              .done ((Config.parse path text).bind Config.Project.ofSection)

def findProgram (s : Session) (name : String) : Host (Option String × Session) :=
  match s.programs.lookup name with
  | some path => .done (some path, s)
  | none =>
    (Host.Search.find name).bind fun
      | some path => .done (some path, { s with programs := (name, path) :: s.programs })
      | none => .done (none, s)

def readProject (s : Session) : Host (Except Error Config.Project × Session) :=
  match s.project with
  | some project => .done (.ok project, s)
  | none =>
    loadProject.bind fun
      | .ok project => .done (.ok project, { s with project := some project })
      | .error e => .done (.error e, s)

/-- How a session answers the questions of a program about its setting. -/
def answer : (q : Setting.Question) → Session → Host (q.Answer × Session)
  | .environment name, s => .ask (.environment name) fun value => .done (value, s)
  | .program name, s => s.findProgram name
  | .project, s => s.readProject
  | .host q, s => .ask q fun a => .done (a, s)

/-- Run a program in the setting of a session. -/
def run {α : Type} (m : Setting α) (s : Session) : Host (α × Session) := m.serve answer s

end Session

end OpPolicy
