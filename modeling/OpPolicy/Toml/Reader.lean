import OpPolicy.Toml.Moment
import OpPolicy.Toml.Node
import OpPolicy.Toml.Number
import OpPolicy.Toml.Stamp

set_option autoImplicit false

/-!
TOML documents. Values nest, and so do their scanners, with fuel that the length of the text
bounds; a document is read line by line.
-/

namespace OpPolicy.Toml

/-- What follows the blanks, line ends and comments between the items of an array. -/
def skipGap (inComment : Bool) : List Char → Option (List Char)
  | [] => if inComment then none else some []
  | '\n' :: s => skipGap false s
  | '\r' :: '\n' :: s => skipGap false s
  | c :: s =>
    if inComment then if isPrintable c then skipGap true s else none
    else if isSpace c then skipGap false s
    else if c = '#' then skipGap true s
    else some (c :: s)

def scanScalar (s : List Char) : Scan Value :=
  match s with
  | '\x22' :: _ => (scanString s).map fun r => (.string r.1, r.2)
  | '\x27' :: _ => (scanString s).map fun r => (.string r.1, r.2)
  | 't' :: 'r' :: 'u' :: 'e' :: s => some (.bool true, s)
  | 'f' :: 'a' :: 'l' :: 's' :: 'e' :: s => some (.bool false, s)
  | s =>
    match scanMoment? s with
    | some r => r.map fun s => (.dateTime, s)
    | none => scanNumber s

mutual

/-- A value that nests at most `depth` arrays and inline tables. -/
def scanValue : Nat → Nat → List Char → Scan Value
  | 0, _, _ => none
  | fuel + 1, depth, s =>
    match s with
    | '[' :: s =>
      if depth = 0 then none
      else (scanItems fuel (depth - 1) s).map fun r => (.array r.1, r.2)
    | '\x7b' :: s =>
      if depth = 0 then none
      else
        match skipSpace s with
        | '\x7d' :: s => some (.table [], s)
        | s => (scanPairs fuel (depth - 1) [] s).map fun r => (.table (Nodes.toTable r.1), r.2)
    | s => scanScalar s

/-- The items of an array up to its closing bracket. -/
def scanItems : Nat → Nat → List Char → Scan (List Value)
  | 0, _, _ => none
  | fuel + 1, depth, s =>
    match skipGap false s with
    | none => none
    | some (']' :: s) => some ([], s)
    | some s =>
      match scanValue fuel depth s with
      | none => none
      | some (v, s) =>
        match skipGap false s with
        | some (',' :: s) => (scanItems fuel depth s).map fun r => (v :: r.1, r.2)
        | some (']' :: s) => some ([v], s)
        | _ => none

/-- The pairs of an inline table up to its closing brace, entered after those read so far. -/
def scanPairs : Nat → Nat → Nodes → List Char → Scan Nodes
  | 0, _, _, _ => none
  | fuel + 1, depth, es, s =>
    match scanPath s with
    | some ((way, key), '=' :: s) =>
      match scanValue fuel depth (skipSpace s) with
      | none => none
      | some (v, s) =>
        match es.put way key v with
        | none => none
        | some es =>
          match skipSpace s with
          | ',' :: s => scanPairs fuel depth es s
          | '\x7d' :: s => some (es, s)
          | _ => none
    | _ => none

end

/-- A document while it is read: the tables closed so far, and the one that is open. -/
structure Document where
  root : Nodes := []
  /-- The open table's way, its key, and whether it is one of an array; the root has none. -/
  place : Option (List String × String × Bool) := none
  current : Nodes := []

namespace Document

def close (d : Document) : Option Nodes :=
  match d.place with
  | none => some d.current
  | some (way, key, true) => (d.root.within way (·.push key d.current)).map (·.2)
  | some (way, key, false) => (d.root.within way (·.close key d.current)).map (·.2)

/-- Close the open table and open the one that a header names. -/
def header (d : Document) (way : List String) (key : String) (inArray : Bool) :
    Option Document := do
  let root ← d.close
  let (inner, root) ← root.within way fun es => if inArray then es.enterArray key else es.enter key
  return ⟨root, some (way, key, inArray), inner⟩

def put (d : Document) (way : List String) (key : String) (v : Value) : Option Document :=
  (d.current.put way key v).map fun es => { d with current := es }

end Document

/-- What follows the end of a line, with a comment before it if there is one. -/
def endLine (s : List Char) : Option (List Char) :=
  let s := skipSpace s
  let s := if s.head? = some '#' then s.dropWhile isPrintable else s
  match s with
  | [] => some []
  | '\n' :: s => some s
  | '\r' :: '\n' :: s => some s
  | _ => none

/-- Read a header, after its opening brackets. -/
def readHeader (d : Document) (inArray : Bool) (s : List Char) : Option (Document × List Char) := do
  let ((way, key), s) ← scanPath s
  let s ← expect ']' s
  let s ← if inArray then expect ']' s else some s
  let s ← endLine s
  return (← d.header way key inArray, s)

/-- Read a line with a key and its value. -/
def readPair (d : Document) (s : List Char) : Option (Document × List Char) := do
  let ((way, key), s) ← scanPath s
  let s ← expect '=' s
  let (v, s) ← scanValue (2 * s.length + 2) depthLimit (skipSpace s)
  let s ← endLine s
  return (← d.put way key v, s)

def readLine (d : Document) (s : List Char) : Scan Document :=
  match s with
  | '#' :: _ => (endLine s).map (d, ·)
  | '\n' :: _ => (endLine s).map (d, ·)
  | '\r' :: _ => (endLine s).map (d, ·)
  | '[' :: '[' :: s => readHeader d true s
  | '[' :: s => readHeader d false s
  | s => readPair d s

def readLines : Nat → Document → List Char → Option Document
  | 0, _, _ => none
  | fuel + 1, d, s =>
    match skipSpace s with
    | [] => some d
    | s => (readLine d s).bind fun r => readLines fuel r.1 r.2

/-- The table that a document spells. A byte order mark in front is skipped. -/
def read (text : List Char) : Option Table := do
  let text := if text.head? = some '\ufeff' then text.drop 1 else text
  let d ← readLines (text.length + 1) {} text
  Value.settleEntries? (Nodes.toTable (← d.close))

end OpPolicy.Toml
