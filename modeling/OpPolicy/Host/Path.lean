set_option autoImplicit false

/-!
Paths as texts. Joining keeps the texts as they are: an absolute path replaces what it is joined
to, and nothing is resolved or tidied.
-/

namespace OpPolicy.Host.Path

def isAbsolute (p : String) : Bool := p.toList.head? = some '/'

def join (base p : String) : String :=
  if isAbsolute p ∨ base = "" then p
  else if base.toList.getLast? = some '/' then base ++ p
  else base ++ "/" ++ p

/-- The texts between the slashes of a path. -/
def pieces (p : String) : List String := (p.toList.splitOn '/').map String.ofList

/-- A piece that names nothing unless it is the first. -/
def isIdle (piece : String) : Bool := piece == "" || piece == "."

/-- A component of a path: empty ones are none, and a dot only counts at the start. -/
def components (p : String) : List String :=
  match pieces p with
  | [] => []
  | first :: rest => (if first = "" then [] else [first]) ++ rest.filter (!isIdle ·)

def ofComponents (absolute : Bool) (cs : List String) : String :=
  (if absolute then "/" else "") ++ "/".intercalate cs

/-- The text of a path from its pieces after the first, which are given in reverse, without the
idle ones at the end. -/
def ofPieces (first : String) (reversed : List String) : String :=
  match reversed.dropWhile isIdle with
  | [] => if first = "" then "/" else first
  | rest => "/".intercalate (first :: rest.reverse)

/-- The path up to its last component. -/
def parent? (p : String) : Option String :=
  match pieces p with
  | [] => none
  | first :: rest =>
    match rest.reverse.dropWhile isIdle with
    | [] => if first = "" then none else some ""
    | _ :: above => some (ofPieces first above)

/-- The last component of a path if it is a name. -/
def fileName? (p : String) : Option String :=
  match (components p).getLast? with
  | some name => if name = "." ∨ name = ".." then none else some name
  | none => none

/-- A path and the paths above it. -/
def ancestors (p : String) : List String := go (pieces p).length p
where
  go : Nat → String → List String
    | 0, _ => []
    | fuel + 1, p => p :: ((parent? p).map (go fuel)).getD []

end OpPolicy.Host.Path
