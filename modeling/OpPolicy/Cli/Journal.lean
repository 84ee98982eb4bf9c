import OpPolicy.Cli.Request
import OpPolicy.Host.Setting
import OpPolicy.Log.Filter

set_option autoImplicit false

/-!
The journal: where log records go, and which of them. Unless the command line says otherwise it is a
file of the project, else one of the user's own; it is made when the first record is kept.
-/

namespace OpPolicy.Cli

/-- Why a journal cannot be kept. -/
inductive JournalFault where
  | filter (text : String)
  /-- A directory stands where the file should be. -/
  | file
  | directory
  /-- The path ends in no name. -/
  | nameless
  deriving DecidableEq, Repr

structure Journal where
  filter : LogFilter
  /-- Without a file, records go to the stream of diagnostics. -/
  file : Option String

namespace Journal

def fileName : String := "log"

/-- The records of the tool's own components, from warnings on up by verbosity. -/
def filterOf (g : Given) : Except JournalFault LogFilter :=
  match g.logFilter with
  | some text =>
    match LogFilter.read? text with
    | some filter => .ok filter
    | none => .error (.filter text)
  | none =>
    let rank := min (Level.warn.rank + g.verbosity) Level.trace.rank
    .ok (.ofRules [⟨programName.toList, rank⟩] .empty)

def pathOf (g : Given) : Setting (Option String) :=
  match g.logFile with
  | some path =>
    if Host.Path.isAbsolute path then .done (some path)
    else .ask (.host .workingDirectory) fun directory =>
      .done (some (Host.Path.join (directory.getD "") path))
  | none =>
    (Setting.outputChild fileName).bind fun
      | .ok path => .done (some path)
      | .error _ =>
        (Setting.ofHost Setting.userDir).bind fun dir =>
          .done (dir.toOption.map (Host.Path.join · fileName))

/-- The file of a journal, in a directory that is made for it. -/
def prepare (path : String) : Host (Except JournalFault String) :=
  .ask (.look path) fun
    | some .directory => .done (.error .file)
    | _ =>
      match Host.Path.parent? path, Host.Path.fileName? path with
      | some directory, some name =>
        .ask (.makeDirectories directory) fun
          | .error _ => .done (.error .directory)
          | .ok () => .done (.ok (Host.Path.join directory name))
      | _, _ => .done (.error .nameless)

def start (g : Given) : Setting (Except JournalFault Journal) :=
  match filterOf g with
  | .error e => .done (.error e)
  | .ok filter =>
    if g.logToStderr then .done (.ok ⟨filter, none⟩)
    else (pathOf g).bind fun
      | none => .done (.ok ⟨filter, none⟩)
      | some path =>
        Dialogue.andThen (Setting.ofHost (prepare path)) fun file =>
          .done (.ok ⟨filter, some file⟩)

/-- A record as the journal shows it. -/
def line (r : Record) : String := s!"{r.level.name} [{r.component.path}] {r.text}\n"

/-- Take a record down if it is kept. -/
def write (j : Journal) (r : Record) : Host Unit :=
  if j.filter.keeps r then
    match j.file with
    | none => .put (Host.Question.complain (line r))
    | some path => .ask (.append path (line r)) fun _ => .done ()
  else .done ()

end Journal

end OpPolicy.Cli
