import OpPolicy.Error
import OpPolicy.Text.Split
import OpPolicy.Text.Utf8

set_option autoImplicit false

/-!
Sets of package names, and the list files that they are read from: one name a line, blank lines and
lines that start with `#` skipped. A line that is not UTF-8 ends the reading, and the names before
it stay.
-/

namespace OpPolicy

/-- Each name once, in the order in which it came. -/
structure Allowlist where
  names : List String
  nodup : names.Nodup := by simp

namespace Allowlist

def empty : Allowlist := ⟨[], List.nodup_nil⟩

def allows (a : Allowlist) (name : String) : Bool := a.names.contains name

def insert (a : Allowlist) (name : String) : Allowlist :=
  if h : name ∈ a.names then a
  else ⟨a.names ++ [name], by simp [List.nodup_append, a.nodup]; rintro x hx rfl; exact h hx⟩

def extend (a : Allowlist) (names : List String) : Allowlist := names.foldl insert a

def ofList (names : List String) : Allowlist := empty.extend names

def size (a : Allowlist) : Nat := a.names.length

/-- Two allowlists are the same set. -/
def sameAs (a b : Allowlist) : Bool := a.size == b.size && a.names.all b.allows

theorem mem_names_insert {a : Allowlist} {x y : String} :
    x ∈ (a.insert y).names ↔ x ∈ a.names ∨ x = y := by
  unfold insert
  split
  · constructor
    · exact .inl
    · rintro (h | rfl) <;> assumption
  · simp

theorem mem_names_extend {a : Allowlist} {x : String} {names : List String} :
    x ∈ (a.extend names).names ↔ x ∈ a.names ∨ x ∈ names := by
  unfold extend
  induction names generalizing a with
  | nil => simp
  | cons y names ih => simp [ih, mem_names_insert, or_assoc]

/-- The entry that a line of a list file holds. -/
def entryOf? (line : List Char) : Option String :=
  let text := Text.trim line
  if text = [] ∨ text.head? = some '#' then none else some (String.ofList text)

/-- The lines of a list file as bytes. A line feed ends a line, and nothing follows the last one. -/
def rawLines (bytes : List UInt8) : List (List UInt8) :=
  let parts := bytes.splitOn 10
  let last := parts.getLastD []
  parts.dropLast ++ (if last = [] then [] else [last])

/-- The entries before the first line that is no text, and whether there was none such. -/
def readLines : List (List UInt8) → List String × Bool
  | [] => ([], true)
  | l :: ls =>
    match Utf8.strict? l with
    | none => ([], false)
    | some line =>
      let r := readLines ls
      ((entryOf? line).toList ++ r.1, r.2)

/-- Read a list file into the set. The answer counts the entries read, each as often as it
stands there. -/
def read (a : Allowlist) (bytes : List UInt8) : Except IoError Nat × Allowlist :=
  let r := readLines (rawLines bytes)
  (if r.2 then .ok r.1.length else .error .notText, a.extend r.1)

end Allowlist

end OpPolicy
