import OpPolicy.Toml.Value

set_option autoImplicit false

/-!
Tables while they are read. A header or a dotted key may open a table that was only implied so far,
but never one that is complete; headers may go on below any table, and in the last table of an
array.
-/

namespace OpPolicy.Toml

/-- How a table came about. -/
inductive Origin where
  | header
  /-- On the way to the table of a header. -/
  | implied
  /-- On the way of a dotted key. -/
  | dotted
  deriving DecidableEq, Repr

inductive Node where
  | value (v : Value)
  | table (origin : Origin) (entries : List (String × Node))
  /-- The tables of an array, the last one first. -/
  | tables (items : List (List (String × Node)))

abbrev Nodes := List (String × Node)

namespace Nodes

def replace (es : Nodes) (key : String) (n : Node) : Nodes :=
  es.map fun e => if e.1 = key then (key, n) else e

def add (es : Nodes) (key : String) (n : Node) : Nodes := es ++ [(key, n)]

/-- Enter a value under a dotted key. -/
def put (es : Nodes) (way : List String) (key : String) (v : Value) : Option Nodes :=
  match way with
  | [] => if (es.lookup key).isSome then none else some (es.add key (.value v))
  | k :: way =>
    match es.lookup k with
    | none => (put [] way key v).map fun inner => es.add k (.table .dotted inner)
    | some (.table .dotted inner) =>
      (put inner way key v).map fun inner => es.replace k (.table .dotted inner)
    | some (.table .implied inner) =>
      if way = [] then none
      else (put inner way key v).map fun inner => es.replace k (.table .implied inner)
    | some (.tables (last :: others)) =>
      if way = [] then none
      else (put last way key v).map fun last => es.replace k (.tables (last :: others))
    | some _ => none

/-- Change the table that a header's way leads to, and make the tables that are missing. -/
def within {α : Type} (es : Nodes) (way : List String) (f : Nodes → Option (α × Nodes)) :
    Option (α × Nodes) :=
  match way with
  | [] => f es
  | k :: way =>
    match es.lookup k with
    | none => (within [] way f).map fun r => (r.1, es.add k (.table .implied r.2))
    | some (.table origin inner) =>
      (within inner way f).map fun r => (r.1, es.replace k (.table origin r.2))
    | some (.tables (last :: others)) =>
      (within last way f).map fun r => (r.1, es.replace k (.tables (r.2 :: others)))
    | some _ => none

/-- Take the entries of an implied table out, to go on with them under its header. -/
def enter (es : Nodes) (key : String) : Option (Nodes × Nodes) :=
  match es.lookup key with
  | none => some ([], es)
  | some (.table .implied inner) => some (inner, es.filter (·.1 ≠ key))
  | some _ => none

/-- Make sure that an array of tables may stand under a key. -/
def enterArray (es : Nodes) (key : String) : Option (Nodes × Nodes) :=
  match es.lookup key with
  | none => some ([], es)
  | some (.tables _) => some ([], es)
  | some _ => none

/-- Add one more table to an array of tables. -/
def push (es : Nodes) (key : String) (inner : Nodes) : Option (Unit × Nodes) :=
  match es.lookup key with
  | none => some ((), es.add key (.tables [inner]))
  | some (.tables items) => some ((), es.replace key (.tables (inner :: items)))
  | some _ => none

/-- Close a table under its header. -/
def close (es : Nodes) (key : String) (inner : Nodes) : Option (Unit × Nodes) :=
  if (es.lookup key).isSome then none else some ((), es.add key (.table .header inner))

end Nodes

mutual

def Node.toValue : Node → Value
  | .value v => v
  | .table _ entries => .table (Nodes.toTable entries)
  | .tables items => .array (Nodes.toValues items)

def Nodes.toTable : List (String × Node) → Table
  | [] => []
  | (key, n) :: es => (key, n.toValue) :: Nodes.toTable es

/-- The tables of an array in their order. -/
def Nodes.toValues : List (List (String × Node)) → List Value
  | [] => []
  | es :: items => Nodes.toValues items ++ [.table (Nodes.toTable es)]

end

end OpPolicy.Toml
