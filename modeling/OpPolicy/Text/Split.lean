import OpPolicy.Text.Blank

set_option autoImplicit false

/-!
Cutting texts: into lines, at the first or the last occurrence of a separator, and into words.
-/

namespace OpPolicy.Text

/-- The text before and the text after the first occurrence of `sep`. -/
def splitFirst? (sep : List Char) : List Char → Option (List Char × List Char)
  | [] => if sep = [] then some ([], []) else none
  | c :: s =>
    match sep.isPrefixOf? (c :: s) with
    | some rest => some ([], rest)
    | none => (splitFirst? sep s).map fun r => (c :: r.1, r.2)

/-- The text before and the text after the last occurrence of `sep`. -/
def splitLast? (sep : List Char) : List Char → Option (List Char × List Char)
  | [] => if sep = [] then some ([], []) else none
  | c :: s =>
    match splitLast? sep s with
    | some r => some (c :: r.1, r.2)
    | none => (sep.isPrefixOf? (c :: s)).map fun rest => ([], rest)

def contains (s needle : List Char) : Bool := (splitFirst? needle s).isSome

/-- Without one carriage return at the end, if there is one. -/
def chomp (s : List Char) : List Char :=
  if s.getLast? = some '\r' then s.dropLast else s

/-- The lines of a text. A line feed ends a line and goes with a carriage return right before it;
what follows the last line feed is a line unless it is empty. -/
def lines (s : List Char) : List (List Char) :=
  let parts := s.splitOn '\n'
  let last := parts.getLastD []
  parts.dropLast.map chomp ++ (if last = [] then [] else [last])

/-- The first word of a text, words being kept apart by the characters of `sep`. -/
def firstWord? (sep : Char → Bool) (s : List Char) : Option (List Char) :=
  match (s.dropWhile sep).takeWhile (fun c => !sep c) with
  | [] => none
  | w => some w

end OpPolicy.Text
