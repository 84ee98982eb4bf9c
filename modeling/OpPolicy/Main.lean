import OpPolicy.Cli.Program

set_option autoImplicit false

/-!
The tool on the machine it is started on. All decisions are those of `Cli.run`; here its questions
are answered from the real environment and files. No other program is started from here: a request
that needs the device ends with the error that says so.
-/

namespace OpPolicy.Host

/-- The cause of an error that the system reports. -/
def causeOf : IO.Error → IoError
  | .noFileOrDirectory .. => .notFound
  | .alreadyExists .. => .exists
  | .permissionDenied .. => .permissionDenied
  | e => .other (toString e)

def attempt {α : Type} (act : IO α) : IO (Except IoError α) := do
  match ← act.toBaseIO with
  | .ok a => return .ok a
  | .error e => return .error (causeOf e)

/-- What stands at a path of the machine. Every file counts as executable. -/
def lookAt (path : String) : IO (Option Entry) := do
  match ← attempt (IO.FS.realPath path) with
  | .error _ => return none
  | .ok p =>
    if ← p.isDir then return some .directory
    else if ← p.pathExists then return some (.file true)
    else return none

def reply : (q : Question) → IO q.Answer
  | .environment name => IO.getEnv name
  | .accountHome => return none
  | .workingDirectory => return some (← IO.currentDir).toString
  | .look path => lookAt path
  | .readFile path => attempt (return (← IO.FS.readBinFile path).toList)
  | .makeDirectories path => attempt (IO.FS.createDirAll path)
  | .append path text => attempt (IO.FS.withFile path .append fun file => file.putStr text)
  | .run program _ => return .error (.other s!"{program} cannot be started from here")
  | .print text => do (← IO.getStdout).putStr text
  | .complain text => do (← IO.getStderr).putStr text

/-- Run a program on the machine. -/
def perform {α : Type} : Host α → IO α
  | .done a => return a
  | .note _ next => perform next
  | .ask q next => do perform (next (← reply q))

end OpPolicy.Host

def main (arguments : List String) : IO UInt32 := do
  return UInt32.ofNat (← OpPolicy.Host.perform (OpPolicy.Cli.run arguments))
