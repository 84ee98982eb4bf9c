import OpPolicy.Error

set_option autoImplicit false

/-!
The five decisions about an op. Their numbers cross process boundaries and never change, and a mode
is read back from its number.
-/

namespace OpPolicy

inductive Mode where
  | allowed
  | ignored
  | errored
  | default
  | foreground
  deriving DecidableEq, Repr, Inhabited

namespace Mode

def all : List Mode := [allowed, ignored, errored, default, foreground]

def number : Mode → Int
  | allowed => 0
  | ignored => 1
  | errored => 2
  | default => 3
  | foreground => 4

def name : Mode → String
  | allowed => "allow"
  | ignored => "ignore"
  | errored => "deny"
  | default => "default"
  | foreground => "foreground"

def ofNumber? (n : Int) : Option Mode := all.find? (·.number = n)

def ofName? (s : String) : Option Mode := all.find? (·.name = s)

/-- The name of a mode number, also of one that a newer authority made up. -/
def nameOf (n : Int) : String :=
  match ofNumber? n with
  | some m => m.name
  | none => s!"mode={n}"

def ofNumber (n : Int) : Except Error Mode :=
  match ofNumber? n with
  | some m => .ok m
  | none => .error (.notFound (nameOf n))

def ofName (s : String) : Except Error Mode :=
  match ofName? s with
  | some m => .ok m
  | none => .error (.notFound s!"mode `{s}`")

@[simp] theorem ofNumber?_number (m : Mode) : ofNumber? m.number = some m := by
  cases m <;> decide

theorem ofNumber?_eq_some_iff {n : Int} {m : Mode} : ofNumber? n = some m ↔ m.number = n :=
  ⟨fun h => by simpa using List.find?_some h, fun h => h ▸ ofNumber?_number m⟩

end Mode

end OpPolicy
