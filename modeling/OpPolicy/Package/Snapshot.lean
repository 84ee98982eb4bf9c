import Std.Data.HashMap
import Std.Data.HashSet
import OpPolicy.Log
import OpPolicy.Package.App

set_option autoImplicit false

/-!
A snapshot of the installed packages: the apps of one listing, the first of each name, with the
indexes that questions are answered from. All indexes grow together, one kept app at a time.
-/

namespace OpPolicy

structure Snapshot where
  generation : Nat
  apps : Array App
  /-- The position in `apps` of each name. -/
  byName : Std.HashMap String Nat
  byUid : Std.HashMap Uid (List String)
  /-- The positions in `apps` of each category's members. -/
  byCategory : Category → List Nat
  whitelist : List String
  whitelisted : Std.HashSet String

namespace Snapshot

def empty (generation : Nat) : Snapshot := ⟨generation, #[], ∅, ∅, fun _ => [], [], ∅⟩

/-- Take an app into every index that it belongs to. -/
def keep (s : Snapshot) (app : App) : Snapshot where
  generation := s.generation
  apps := s.apps.push app
  byName := s.byName.insert app.name s.apps.size
  byUid := s.byUid.insert app.uid (s.byUid.getD app.uid [] ++ [app.name])
  byCategory c := if app.flags.has c then s.byCategory c ++ [s.apps.size] else s.byCategory c
  whitelist := if app.flags.has .whitelisted then s.whitelist ++ [app.name] else s.whitelist
  whitelisted :=
    if app.flags.has .whitelisted then s.whitelisted.insert app.name else s.whitelisted

/-- Only the first app of a name is kept. -/
def add (s : Snapshot) (app : App) : Snapshot :=
  if s.byName.contains app.name then s else s.keep app

@[simp] theorem generation_add (s : Snapshot) (app : App) :
    (s.add app).generation = s.generation := by
  unfold add
  split <;> rfl

def build (generation : Nat) (listed : List App) : Snapshot := listed.foldl add (empty generation)

@[simp] theorem generation_build (generation : Nat) (listed : List App) :
    (build generation listed).generation = generation := by
  unfold build
  suffices h : ∀ s : Snapshot, (listed.foldl add s).generation = s.generation from h _
  induction listed with
  | nil => exact fun _ => rfl
  | cons app listed ih => exact fun s => (ih _).trans (generation_add s app)

theorem add_stamped (s : Snapshot) (generation : Nat) (app : App) :
    { s with generation := generation }.add app =
      { s.add app with generation := generation } := by
  unfold add
  split <;> rfl

/-- The generation is a stamp on what the listing alone decides. -/
theorem build_eq_stamped (g g' : Nat) (listed : List App) :
    build g listed = { build g' listed with generation := g } := by
  unfold build
  suffices h : ∀ s : Snapshot, listed.foldl add { s with generation := g } =
      { listed.foldl add s with generation := g } from h (empty g')
  induction listed with
  | nil => exact fun _ => rfl
  | cons app listed ih =>
    intro s
    rw [List.foldl_cons, List.foldl_cons, add_stamped]
    exact ih (s.add app)

/-- The names of the apps that are not kept, given the names seen before. -/
def repeats (seen : List String) : List App → List String
  | [] => []
  | app :: rest =>
    if app.name ∈ seen then app.name :: repeats seen rest else repeats (app.name :: seen) rest

def app? (s : Snapshot) (name : String) : Option App := s.byName[name]?.bind (s.apps[·]?)

def uidFor? (s : Snapshot) (name : String) : Option Uid := (s.app? name).map (·.uid)

def namesForUid? (s : Snapshot) (uid : Uid) : Option (List String) := s.byUid[uid]?

/-- The apps of one category, in listing order. -/
def category (s : Snapshot) (c : Category) : List App := (s.byCategory c).filterMap (s.apps[·]?)

/-- The apps of the category that `f` is, none if `f` is not one category. -/
def categoryOf (s : Snapshot) (f : Flags) : List App :=
  match f.only? with
  | some c => s.category c
  | none => []

/-- Collect apps whose names were not collected before. -/
def collect (taken : List App) (apps : List App) : List App :=
  apps.foldl (fun taken app => if taken.any (·.name == app.name) then taken else taken ++ [app])
    taken

/-- The union of the categories of `f`, category by category, each app once. -/
def installed (s : Snapshot) (f : Flags) : List App :=
  f.categories.foldl (fun taken c => collect taken (s.category c)) []

/-- What collecting the categories of `f` notes. -/
def installedNotes (f : Flags) : List Record :=
  f.categories.map fun c => ⟨.debug, .cache, s!"installed_pkgs, adding {c.name}"⟩

def isWhitelisted (s : Snapshot) (name : String) : Bool := s.whitelisted.contains name

def uidCount (s : Snapshot) : Nat := s.byUid.size

end Snapshot

end OpPolicy
