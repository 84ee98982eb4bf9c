import OpPolicy.Host.Path
import OpPolicy.Host.Question

set_option autoImplicit false

/-!
The search for programs. A name with a directory in it is looked up where it says; a bare name is
looked for in the directories of the search path, of which the tool has one of its own that
replaces the system's. An executable file counts.
-/

namespace OpPolicy.Host.Search

/-- The variable that replaces the search path. -/
def pathVariable : String := "APPOPS_PATH"

/-- A name that says where to look. -/
def isLocated (name : String) : Bool :=
  Path.isAbsolute name || 1 < (Path.components name).length

/-- Where a name that says so lies, seen from a directory. -/
def locate (directory name : String) : String :=
  if Path.isAbsolute name then name
  else ((Path.components name).dropWhile (· == ".")).foldl Path.join directory

/-- A directory of the search path, with the home directory in the place of a leading tilde. -/
def expand (home : Option String) (directory : String) : String :=
  match home, Path.components directory with
  | some home, "~" :: rest =>
    if home = "" ∨ Path.isAbsolute directory then directory else rest.foldl Path.join home
  | _, _ => directory

/-- Where a bare name may lie. -/
def places (home : Option String) (searchPath name : String) : List String :=
  (searchPath.toList.splitOn ':').map fun d =>
    Path.join (expand home (String.ofList d)) name

/-- The first of some paths that is an executable file. -/
def first? : List String → Host (Option String)
  | [] => .done none
  | p :: ps =>
    .ask (.look p) fun
      | some (.file true) => .done (some p)
      | _ => first? ps

/-- The path of a program. -/
def find (name : String) : Host (Option String) := do
  let own ← Dialogue.put (Question.environment pathVariable)
  let directory ← Dialogue.put Question.workingDirectory
  if own.isSome ∧ directory.isNone then return none
  match directory with
  | some directory => if isLocated name then return ← first? [locate directory name]
  | none => pure ()
  let system ← Dialogue.put (Question.environment "PATH")
  match own <|> system with
  | none => return none
  | some searchPath =>
    let home ← Dialogue.put (Question.environment "HOME")
    first? (places home searchPath name)

end OpPolicy.Host.Search
