import OpPolicy.Device.Output
import OpPolicy.Dialogue

set_option autoImplicit false

/-!
What programs ask of the machine they run on.
-/

namespace OpPolicy

namespace Host

/-- What stands at a path. -/
inductive Entry where
  | file (executable : Bool)
  | directory
  deriving DecidableEq, Repr

inductive Question where
  /-- The value of an environment variable. -/
  | environment (name : String)
  /-- The home directory of the account, as the machine's records have it. -/
  | accountHome
  | workingDirectory
  | look (path : String)
  | readFile (path : String)
  /-- Make a directory and those above it. -/
  | makeDirectories (path : String)
  | append (path text : String)
  | run (program : String) (arguments : List String)
  | print (text : String)
  /-- Print to the stream of diagnostics. -/
  | complain (text : String)
  deriving DecidableEq, Repr

abbrev Question.Answer : Question → Type
  | .environment _ | .accountHome | .workingDirectory => Option String
  | .look _ => Option Entry
  | .readFile _ => Except IoError (List UInt8)
  | .makeDirectories _ | .append .. => Except IoError Unit
  | .run .. => Reply
  | .print _ | .complain _ => Unit

end Host

/-- A program that asks things of its machine. -/
abbrev Host := Dialogue Host.Question Host.Question.Answer

namespace Host

/-- A file as text. A file that is not there has an error of its own. -/
def readText (path : String) : Host (Except Error String) :=
  .ask (.readFile path) fun
    | .error .notFound => .done (.error (.missingFile path))
    | .error e => .done (.error (.io e))
    | .ok bytes =>
      match Utf8.strict? bytes with
      | some text => .done (.ok (String.ofList text))
      | none => .done (.error (.io .notText))

/-- Make a directory unless something stands there. -/
def ensureDirectory (path : String) : Host (Except Error Unit) :=
  .ask (.look path) fun
    | some _ => .done (.ok ())
    | none => .ask (.makeDirectories path) fun r => .done (r.mapError .io)

end Host

end OpPolicy
