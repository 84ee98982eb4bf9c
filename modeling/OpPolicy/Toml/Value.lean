set_option autoImplicit false

namespace OpPolicy.Toml

/-- A TOML value. Floats and dates are told apart from the other types, and nothing reads them. -/
inductive Value where
  | string (s : String)
  | integer (n : Int)
  | float
  | bool (b : Bool)
  | dateTime
  | array (items : List Value)
  | table (entries : List (String × Value))

/-- A table, each key at most once. -/
abbrev Table := List (String × Value)

namespace Value

def string? : Value → Option String
  | string s => some s
  | _ => none

def integer? : Value → Option Int
  | integer n => some n
  | _ => none

def bool? : Value → Option Bool
  | bool b => some b
  | _ => none

def array? : Value → Option (List Value)
  | array vs => some vs
  | _ => none

def table? : Value → Option Table
  | table entries => some entries
  | _ => none

end Value

end OpPolicy.Toml
