import OpPolicy.Json.Literal

set_option autoImplicit false

/-!
JSON values as they are spelled, and their compact text. Reading accepts the blanks that JSON
allows between tokens and nothing after the value.
-/

namespace OpPolicy

inductive Json where
  | null
  | bool (b : Bool)
  | number (spelling : List Char)
  | string (spelling : List Char)
  | array (items : List Json)
  /-- Members in their order, repetitions included, with their names as they are spelled. -/
  | object (members : List (List Char × Json))

namespace Json

def text (s : String) : Json := .string (escape s.toList)

def integer (n : Int) : Json := .number (spellInteger n)

def record (fields : List (String × Json)) : Json :=
  .object (fields.map fun f => (escape f.1.toList, f.2))

def quoted (spelling : List Char) : List Char := '\x22' :: spelling ++ ['\x22']

mutual

def render : Json → List Char
  | null => "null".toList
  | bool true => "true".toList
  | bool false => "false".toList
  | number spelling => spelling
  | string spelling => quoted spelling
  | array [] => "[]".toList
  | array (v :: vs) => '[' :: v.render ++ renderItems vs
  | object [] => "\x7b\x7d".toList
  | object (m :: ms) => '\x7b' :: renderMember m ++ renderMembers ms

/-- The items after the first, and the closing bracket. -/
def renderItems : List Json → List Char
  | [] => [']']
  | v :: vs => ',' :: v.render ++ renderItems vs

def renderMember : List Char × Json → List Char
  | (name, v) => quoted name ++ ':' :: v.render

/-- The members after the first, and the closing brace. -/
def renderMembers : List (List Char × Json) → List Char
  | [] => ['\x7d']
  | m :: ms => ',' :: renderMember m ++ renderMembers ms

end

def isBlank (c : Char) : Bool := c == ' ' || c == '\t' || c == '\n' || c == '\r'

def skip (s : List Char) : List Char := s.dropWhile isBlank

mutual

/-- One value and what follows it. The fuel bounds the nesting of the calls. -/
def value : Nat → List Char → Option (Json × List Char)
  | 0, _ => none
  | fuel + 1, s =>
    match skip s with
    | 'n' :: 'u' :: 'l' :: 'l' :: s => some (.null, s)
    | 't' :: 'r' :: 'u' :: 'e' :: s => some (.bool true, s)
    | 'f' :: 'a' :: 'l' :: 's' :: 'e' :: s => some (.bool false, s)
    | '\x22' :: s => (scanString s).map fun r => (.string r.1, r.2)
    | '[' :: s =>
      match skip s with
      | ']' :: s => some (.array [], s)
      | s => (items fuel s).map fun r => (.array r.1, r.2)
    | '\x7b' :: s =>
      match skip s with
      | '\x7d' :: s => some (.object [], s)
      | s => (members fuel s).map fun r => (.object r.1, r.2)
    | s => (scanNumber s).map fun r => (.number r.1, r.2)

/-- Values up to the closing bracket. -/
def items : Nat → List Char → Option (List Json × List Char)
  | 0, _ => none
  | fuel + 1, s =>
    match value fuel s with
    | none => none
    | some (v, s) =>
      match skip s with
      | ',' :: s => (items fuel s).map fun r => (v :: r.1, r.2)
      | ']' :: s => some ([v], s)
      | _ => none

/-- Members up to the closing brace. -/
def members : Nat → List Char → Option (List (List Char × Json) × List Char)
  | 0, _ => none
  | fuel + 1, s =>
    match skip s with
    | '\x22' :: s =>
      match scanString s with
      | none => none
      | some (name, s) =>
        match skip s with
        | ':' :: s =>
          match value fuel s with
          | none => none
          | some (v, s) =>
            match skip s with
            | ',' :: s => (members fuel s).map fun r => ((name, v) :: r.1, r.2)
            | '\x7d' :: s => some ([(name, v)], s)
            | _ => none
        | _ => none
    | _ => none

end

/-- The value that a whole text spells. -/
def read (s : List Char) : Option Json :=
  match value (2 * s.length + 2) s with
  | some (v, rest) => if skip rest = [] then some v else none
  | none => none

def text? : Json → Option String
  | string spelling => (unescape spelling).map String.ofList
  | _ => none

def int? : Json → Option Int
  | number spelling => integer? spelling
  | _ => none

def array? : Json → Option (List Json)
  | array vs => some vs
  | _ => none

/-- The only member of a name. -/
def member? (name : String) (members : List (List Char × Json)) : Option Json :=
  match members.filter fun m => unescape m.1 = some name.toList with
  | [m] => some m.2
  | _ => none

/-- The values of the named fields: of an object's members, whose other members do not matter, or
of an array that has one item for each name. -/
def fields? (names : List String) : Json → Option (List Json)
  | array vs => if vs.length = names.length then some vs else none
  | object ms =>
    if ms.all fun m => (unescape m.1).isSome then names.mapM fun name => member? name ms else none
  | _ => none

end Json

end OpPolicy
