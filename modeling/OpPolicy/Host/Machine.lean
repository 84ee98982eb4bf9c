import OpPolicy.Host.Path
import OpPolicy.Host.Question

set_option autoImplicit false

/-!
A machine in memory: a file tree without links, an environment, and programs that play a script of
outputs. Programs can be run on it without touching the real one.
-/

namespace OpPolicy.Host

inductive Tree where
  | file (content : List UInt8) (executable : Bool)
  /-- A program that plays the machine's script. -/
  | player
  | directory (entries : List (String × Tree))

namespace Tree

def entry : Tree → Entry
  | file _ executable => .file executable
  | player => .file true
  | directory _ => .directory

def get? : Tree → List String → Option Tree
  | t, [] => some t
  | directory entries, name :: names => (entries.lookup name).bind fun t => t.get? names
  | _, _ :: _ => none

/-- Put something under a name, in the place of what was there. -/
def set (name : String) (new : Tree) : List (String × Tree) → List (String × Tree)
  | [] => [(name, new)]
  | e :: es => if e.1 = name then (name, new) :: es else e :: set name new es

/-- Change what stands at a place. Nothing happens if the way to it is no way of directories. -/
def modify (f : Option Tree → Option Tree) : Tree → List String → Tree
  | t, [] => (f (some t)).getD t
  | directory entries, [name] =>
    match f (entries.lookup name) with
    | some new => directory (set name new entries)
    | none => directory (entries.filter (·.1 ≠ name))
  | directory entries, name :: names =>
    match entries.lookup name with
    | some t => directory (set name (t.modify f names) entries)
    | none => directory entries
  | t, _ :: _ => t

/-- The ways to all files. -/
def files : List String → Tree → List (List String)
  | way, directory entries => inEntries way entries
  | way, _ => [way]
where
  inEntries (way : List String) : List (String × Tree) → List (List String)
    | [] => []
    | (name, t) :: es => t.files (way ++ [name]) ++ inEntries way es

end Tree

structure Machine where
  tree : Tree := .directory []
  workingDirectory : String := "/"
  environment : List (String × String) := []
  accountHome : Option String := none
  /-- The outputs of the programs that are run, the last of which repeats. -/
  script : List Output := []
  /-- The arguments of each run so far. -/
  runs : List (List String) := []
  printed : String := ""
  complaints : String := ""

namespace Machine

def nameTooLong : IoError := .other "File name too long (os error 36)"

def nulInName : IoError := .other "file name contained an unexpected NUL byte"

def nulInData : IoError := .other "nul byte found in provided data"

def argumentsTooLong : IoError := .other "Argument list too long (os error 7)"

/-- The bytes that a path may have. -/
def pathLimit : Nat := 4095

/-- The bytes that a component of a path may have. -/
def nameLimit : Nat := 255

/-- The bytes that an argument of a program may have. -/
def argumentLimit : Nat := 131071

/-- Follow the components of a path from a directory, whose way is given in reverse. -/
def follow (t : Tree) (way : List String) : List String → Except IoError (List String)
  | [] => if (t.get? way.reverse).isSome then .ok way.reverse else .error .notFound
  | c :: cs =>
    match t.get? way.reverse with
    | none => .error .notFound
    | some (.directory _) =>
      if nameLimit < c.utf8ByteSize then .error nameTooLong
      else if c = "" ∨ c = "." then follow t way cs
      else if c = ".." then follow t way.tail cs
      else follow t (c :: way) cs
    | some _ => .error .notADirectory

def absolute (m : Machine) (p : String) : String := Path.join m.workingDirectory p

/-- A path that can be looked up at all. -/
def checkPath (p : String) : Except IoError Unit :=
  if p = "" then .error .notFound
  else if p.toList.contains '\x00' then .error nulInName
  else if pathLimit < p.utf8ByteSize then .error nameTooLong
  else .ok ()

/-- The way to what a path names. -/
def resolve (m : Machine) (p : String) : Except IoError (List String) := do
  checkPath p
  follow m.tree [] (Path.pieces (m.absolute p))

theorem resolve_of_isAbsolute (m : Machine) {p : String} (can : checkPath p = .ok ())
    (rooted : Path.isAbsolute p = true) :
    m.resolve p = follow m.tree [] (Path.pieces p) := by
  rw [resolve, can, absolute, Path.join, if_pos (.inl rooted)]
  rfl

def at? (m : Machine) (p : String) : Option Tree := do
  m.tree.get? (← (m.resolve p).toOption)

def isDirectory (m : Machine) (p : String) : Bool := (m.at? p).map Tree.entry == some .directory

/-- The way to the directory that a path's last component stands in, and that component. -/
def resolveNew (m : Machine) (p : String) : Except IoError (List String × String) := do
  checkPath p
  match (Path.pieces (m.absolute p)).reverse.dropWhile (· == "") with
  | [] => throw .exists
  | last :: parents =>
    let way ← follow m.tree [] parents.reverse
    match m.tree.get? way with
    | some (.directory _) =>
      if nameLimit < last.utf8ByteSize then throw nameTooLong else return (way, last)
    | _ => throw .notADirectory

def put (m : Machine) (way : List String) (t : Tree) : Machine :=
  { m with tree := m.tree.modify (fun _ => some t) way }

def remove (m : Machine) (p : String) : Machine :=
  match m.resolve p with
  | .error _ => m
  | .ok way => { m with tree := m.tree.modify (fun _ => none) way }

def makeDirectory (m : Machine) (p : String) : Except IoError Machine :=
  match m.resolveNew p with
  | .error e => .error e
  | .ok (way, last) =>
    if last = "." ∨ last = ".." ∨ (m.tree.get? (way ++ [last])).isSome then .error .exists
    else .ok (m.put (way ++ [last]) (.directory []))

/-- Make the first of some directories, each of which stands in the next, and those that it needs.
What was made before something failed stays. -/
def makeDirectories (m : Machine) : List String → Except IoError Unit × Machine
  | [] => (.ok (), m)
  | p :: above =>
    let settle (m : Machine) (e : IoError) : Except IoError Unit × Machine :=
      (if m.isDirectory p then .ok () else .error e, m)
    match m.makeDirectory p with
    | .ok m => (.ok (), m)
    | .error .notFound =>
      match makeDirectories m above with
      | (.error e, m) => (.error e, m)
      | (.ok (), m) =>
        match m.makeDirectory p with
        | .ok m => (.ok (), m)
        | .error e => settle m e
    | .error e => settle m e

/-- Make a directory and those above it. The empty path stands for the working directory. -/
def makePath (m : Machine) (p : String) : Except IoError Unit × Machine :=
  m.makeDirectories ((Path.ancestors p).filter (· ≠ ""))

/-- Put something at a path, with the directories above it. -/
def install (m : Machine) (p : String) (t : Tree) : Machine :=
  match Path.parent? p with
  | none => m
  | some parent =>
    let m := (m.makePath parent).2
    match m.resolveNew p with
    | .ok (way, last) => m.put (way ++ [last]) t
    | .error _ => m

def append (m : Machine) (p text : String) : Except IoError Machine :=
  match m.resolveNew p with
  | .error e => .error e
  | .ok (way, last) =>
    let way := way ++ [last]
    match m.tree.get? way with
    | some (.file content executable) =>
      .ok (m.put way (.file (content ++ text.toUTF8.toList) executable))
    | some (.directory _) => .error .isADirectory
    | some .player => .ok m
    | none => .ok (m.put way (.file text.toUTF8.toList false))

def readFile (m : Machine) (p : String) : Except IoError (List UInt8) :=
  match m.resolve p with
  | .error e => .error e
  | .ok way =>
    match m.tree.get? way with
    | some (.file content _) => .ok content
    | some .player => .ok []
    | _ => .error .isADirectory

/-- Whether the program at a path can be run. -/
def start (m : Machine) (p : String) : Except IoError Unit :=
  match m.resolve p with
  | .error e => .error e
  | .ok way =>
    match m.tree.get? way with
    | some .player => .ok ()
    | some (.file _ true) => .error .notExecutable
    | _ => .error .permissionDenied

/-- Whether a bare name can be run from one of some directories, given how the last attempt failed
and whether one met a file that may not be run. The former is reported only without the latter. -/
def startFrom (m : Machine) (name : String) (denied : Bool) (last : IoError) :
    List String → Except IoError Unit
  | [] => .error (if denied then .permissionDenied else last)
  | d :: ds =>
    match m.start (Path.join d name) with
    | .ok () => .ok ()
    | .error .permissionDenied => m.startFrom name true last ds
    | .error .notFound => m.startFrom name denied .notFound ds
    | .error .notADirectory => m.startFrom name denied .notADirectory ds
    | .error e => .error e

def startProgram (m : Machine) (program : String) : Except IoError Unit :=
  if program = "" then .error .notFound
  else if program.toList.contains '/' then m.start program
  else
    let searchPath := (m.environment.lookup "PATH").getD "/bin:/usr/bin"
    m.startFrom program false .notFound ((searchPath.toList.splitOn ':').map String.ofList)

def run (m : Machine) (program : String) (arguments : List String) : Reply × Machine :=
  if (program :: arguments).any (·.toList.contains '\x00') then (.error nulInData, m)
  else
    match m.startProgram program with
    | .error e => (.error e, m)
    | .ok () =>
      if (program :: arguments).any (argumentLimit < ·.utf8ByteSize) then
        (.error argumentsTooLong, m)
      else
        (.ok (m.script.getD m.runs.length (m.script.getLastD Output.silent)),
          { m with runs := m.runs ++ [arguments] })

/-- The answer of a machine that changed or refused to. -/
def changed (m : Machine) : Except IoError Machine → Except IoError Unit × Machine
  | .ok m => (.ok (), m)
  | .error e => (.error e, m)

def answer : (q : Question) → Machine → q.Answer × Machine
  | .environment name, m => (m.environment.lookup name, m)
  | .accountHome, m => (m.accountHome, m)
  | .workingDirectory, m => (some m.workingDirectory, m)
  | .look p, m => ((m.at? p).map Tree.entry, m)
  | .readFile p, m => (m.readFile p, m)
  | .makeDirectories p, m => m.makePath p
  | .append p text, m => m.changed (m.append p text)
  | .run program arguments, m => m.run program arguments
  | .print text, m => ((), { m with printed := m.printed ++ text })
  | .complain text, m => ((), { m with complaints := m.complaints ++ text })

end Machine

end OpPolicy.Host
