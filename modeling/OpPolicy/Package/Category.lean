import OpPolicy.Error
import OpPolicy.Text.Split

set_option autoImplicit false

/-!
The categories of installed apps and sets of them. A set has one bit for each category; reading a
written set gives the set, and a list of names means the union of what the names mean.
-/

namespace OpPolicy

inductive Category where
  | user
  | system
  | systemUid
  | systemMedia
  | systemPhone
  | webViewProvider
  | whitelisted
  deriving DecidableEq, Repr

namespace Category

/-- The order in which apps are collected by category. -/
def order : List Category :=
  [system, systemMedia, systemPhone, systemUid, user, webViewProvider, whitelisted]

def name : Category → String
  | user => "user"
  | system => "system"
  | systemUid => "system-uid"
  | systemMedia => "system-media"
  | systemPhone => "system-phone"
  | webViewProvider => "web-view-provider"
  | whitelisted => "whitelisted"

def bit : Category → Nat
  | user => 0
  | system => 1
  | systemUid => 2
  | systemMedia => 3
  | systemPhone => 4
  | webViewProvider => 5
  | whitelisted => 6

theorem mem_order (c : Category) : c ∈ order := by cases c <;> decide

end Category

structure Flags where
  bits : BitVec 7
  deriving DecidableEq, Repr

namespace Flags

/-- Bits beyond the known categories are dropped. -/
def ofNat (n : Nat) : Flags := ⟨BitVec.ofNat 7 n⟩

def toNat (f : Flags) : Nat := f.bits.toNat

def empty : Flags := ⟨0⟩

def all : Flags := ⟨BitVec.allOnes 7⟩

def single (c : Category) : Flags := ⟨BitVec.twoPow 7 c.bit⟩

def union (f g : Flags) : Flags := ⟨f.bits ||| g.bits⟩

instance : Union Flags := ⟨union⟩

def has (f : Flags) (c : Category) : Bool := f.bits.getLsbD c.bit

/-- Whether two sets share a category. -/
def meets (f g : Flags) : Bool := f.bits &&& g.bits ≠ 0

def categories (f : Flags) : List Category := Category.order.filter f.has

@[simp] theorem has_union (f g : Flags) (c : Category) : (f ∪ g).has c = (f.has c || g.has c) :=
  BitVec.getLsbD_or

@[simp] theorem has_empty (c : Category) : empty.has c = false := by cases c <;> decide

@[simp] theorem has_all (c : Category) : all.has c = true := by cases c <;> decide

theorem has_single (c d : Category) : (single c).has d = decide (c = d) := by
  cases c <;> cases d <;> decide

/-- The category of a set that holds exactly one. -/
def only? (f : Flags) : Option Category := Category.order.find? (single · = f)

/-- The name of a set of one category; any other set is mixed. -/
def categoryName (f : Flags) : String :=
  match f.only? with
  | some c => c.name
  | none => "mixed"

def render (f : Flags) : String := ",".intercalate (f.categories.map (·.name))

/-- What a trimmed part of a list means. -/
def ofPart? (part : List Char) : Option Flags :=
  if part = "all".toList then some all
  else (Category.order.find? (·.name.toList = part)).map single

/-- The parts of a list: between commas, trimmed, the empty ones left out. -/
def parts (s : List Char) : List (List Char) :=
  ((s.splitOn ',').map Text.trim).filter (· ≠ [])

def addPart (f : Flags) (part : List Char) : Except Error Flags :=
  match ofPart? part with
  | some g => .ok (f ∪ g)
  | none => .error (.notFound s!"app category {String.ofList part}")

def ofList (s : String) : Except Error Flags := (parts s.toList).foldlM addPart empty

end Flags

end OpPolicy
