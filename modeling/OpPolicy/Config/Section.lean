import OpPolicy.Error
import OpPolicy.Toml.Reader

set_option autoImplicit false

/-!
Sections of a configuration file: a table with the way that leads to it from the root. A getter
reports a missing key or a value of another type; its typed form reports the file, the dotted key
and the type expected there.
-/

namespace OpPolicy.Config

/-- What is wrong with a value. -/
inductive Fault where
  | wrongType
  | missing
  deriving DecidableEq, Repr

structure Section where
  file : String
  way : List String
  table : Toml.Table

def invalid (file detail : String) : Error := .invalidConfig file detail

/-- The root section of a file. -/
def parse (file text : String) : Except Error Section :=
  match Toml.read text.toList with
  | some table => .ok ⟨file, [], table⟩
  | none => .error (invalid file "TOML parse error")

namespace Section

def dotted (s : Section) (key : String) : String := ".".intercalate (s.way ++ [key])

def invalidKey (s : Section) (key expected : String) : Error :=
  invalid s.file s!"invalid value for key: {s.dotted key} (expected type: {expected})"

/-- A value that may be absent, read as one type. -/
def optional {α : Type} (s : Section) (key : String) (read : Toml.Value → Option α) :
    Except Fault (Option α) :=
  match s.table.lookup key with
  | none => .ok none
  | some v =>
    match read v with
    | some a => .ok (some a)
    | none => .error .wrongType

/-- A value that has to be there. -/
def required {α : Type} (s : Section) (key : String) (read : Toml.Value → Option α) :
    Except Fault α :=
  match s.optional key read with
  | .error f => .error f
  | .ok none => .error .missing
  | .ok (some a) => .ok a

/-- A value that may be absent, or the error that names its key. -/
def typed {α : Type} (s : Section) (key expected : String) (read : Toml.Value → Option α) :
    Except Error (Option α) :=
  (s.optional key read).mapError fun _ => s.invalidKey key expected

def strings? (v : Toml.Value) : Option (List String) :=
  v.array?.bind fun vs => vs.mapM Toml.Value.string?

def int (s : Section) (key : String) : Except Fault Int := s.required key Toml.Value.integer?

def bool (s : Section) (key : String) : Except Fault Bool := s.required key Toml.Value.bool?

/-- A Boolean, or `fallback` if there is none. -/
def boolOr (s : Section) (key : String) (fallback : Bool) : Bool :=
  ((s.table.lookup key).bind Toml.Value.bool?).getD fallback

def string (s : Section) (key : String) : Except Fault String :=
  s.required key Toml.Value.string?

def optionalString (s : Section) (key : String) : Except Fault (Option String) :=
  s.optional key Toml.Value.string?

def typedString (s : Section) (key : String) : Except Error (Option String) :=
  s.typed key "string" Toml.Value.string?

def optionalStrings (s : Section) (key : String) : Except Fault (Option (List String)) :=
  s.optional key strings?

def typedStrings (s : Section) (key : String) : Except Error (Option (List String)) :=
  s.typed key "array of strings" strings?

def inner? (s : Section) (key : String) (v : Toml.Value) : Option Section :=
  v.table?.map fun table => ⟨s.file, s.way ++ [key], table⟩

def subsection (s : Section) (key : String) : Except Fault Section :=
  s.required key (s.inner? key)

def optionalSubsection (s : Section) (key : String) : Except Fault (Option Section) :=
  s.optional key (s.inner? key)

def typedSubsection (s : Section) (key : String) : Except Error (Option Section) :=
  s.typed key "table" (s.inner? key)

end Section

end OpPolicy.Config
