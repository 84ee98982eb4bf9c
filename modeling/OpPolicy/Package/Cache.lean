import OpPolicy.Dialogue
import OpPolicy.Package.Snapshot

set_option autoImplicit false

/-!
The cache of installed packages. Invalidating only bumps a counter; the next reader rebuilds the
snapshot from the inventory, one reader at a time, and readers that waited meanwhile share what
came of it.

A reader is given by its program point, and a step takes it to the next point with one access to
the cells that readers share. Many readers interleave such steps; one reader alone is run to its
end by `resume`.
-/

namespace OpPolicy

/-- What an inventory listing came to, and how often the cache was invalidated while it ran. -/
structure Listing.Report where
  outcome : Except Error (List App)
  invalidations : Nat

/-- The cells that all readers share. `ι` names inventories. -/
structure Cache (ι : Type) where
  bound : Option ι := none
  generation : Nat := 0
  published : Option Snapshot := none
  /-- Whether some reader holds the rebuild lock. -/
  held : Bool := false
  /-- The message of the last finished rebuild, if it failed. Only the lock's holder looks. -/
  lastFailure : Option String := none
  attempts : Nat := 0
  completed : Nat := 0

/-- Where a reader stands. -/
inductive Point (ι : Type) where
  | entered
  | comparing (s : Snapshot)
  | sampling
  | waiting (seen : Nat)
  | locked (seen : Nat)
  | recomparing (seen : Nat) (s : Snapshot)
  | recounting (seen : Nat)
  | seeking
  | loading (i : ι)
  | counting (i : ι) (generation : Nat)
  | asking (i : ι) (generation : Nat)
  | listing (i : ι) (generation : Nat)
  | failed (message : String)
  | built (s : Snapshot)
  | completing (s : Snapshot)
  | releasing (r : Except Error Snapshot)
  | finished (r : Except Error Snapshot)

namespace Point
variable {ι : Type}

def unbound : Error := .provider "package cache used before an inventory was bound"

/-- One step of a reader that neither waits for a held lock nor for a listing. -/
def next (c : Cache ι) : Point ι → Cache ι × Point ι
  | entered =>
    match c.published with
    | some s => (c, comparing s)
    | none => (c, sampling)
  | comparing s => if s.generation = c.generation then (c, finished (.ok s)) else (c, sampling)
  | sampling => (c, waiting c.completed)
  | waiting seen => ({ c with held := true }, locked seen)
  | locked seen =>
    match c.published with
    | some s => (c, recomparing seen s)
    | none => (c, recounting seen)
  | recomparing seen s =>
    if s.generation = c.generation then (c, releasing (.ok s)) else (c, recounting seen)
  | recounting seen =>
    if c.completed ≠ seen then
      match c.lastFailure with
      | some message => (c, releasing (.error (.provider message)))
      | none => (c, seeking)
    else (c, seeking)
  | seeking =>
    match c.bound with
    | some i => (c, loading i)
    | none => (c, releasing (.error unbound))
  | loading i => (c, counting i c.generation)
  | counting i g => ({ c with attempts := c.attempts + 1 }, asking i g)
  | asking i g => (c, listing i g)
  | listing i g => (c, listing i g)
  | failed message =>
    ({ c with lastFailure := some message, completed := c.completed + 1 },
      releasing (.error (.provider message)))
  | built s => ({ c with published := some s }, completing s)
  | completing s =>
    ({ c with lastFailure := none, completed := c.completed + 1 }, releasing (.ok s))
  | releasing r => ({ c with held := false }, finished r)
  | finished r => (c, finished r)

/-- Where a reader stands once its listing has ended. -/
def listed (g : Nat) : Except Error (List App) → Point ι
  | .error e => failed e.providerDetail
  | .ok apps => built (Snapshot.build g apps)

def rank : Point ι → Nat
  | entered => 16
  | comparing _ => 15
  | sampling => 14
  | waiting _ => 13
  | locked _ => 12
  | recomparing _ _ => 11
  | recounting _ => 10
  | seeking => 9
  | loading _ => 8
  | counting _ _ => 7
  | asking _ _ => 6
  | listing _ _ => 5
  | failed _ => 4
  | built _ => 3
  | completing _ => 2
  | releasing _ => 1
  | finished _ => 0

/-- What keeps a reader from its next step. -/
inductive Status (ι : Type) where
  | over (r : Except Error Snapshot)
  | awaits (i : ι) (generation : Nat)
  | runs

def status : Point ι → Status ι
  | finished r => .over r
  | listing i g => .awaits i g
  | _ => .runs

theorem rank_listed_lt {p : Point ι} {i : ι} {g : Nat} (h : p.status = .awaits i g)
    (o : Except Error (List App)) : (listed g o : Point ι).rank < p.rank := by
  cases p <;> cases o <;> simp_all [status, listed, rank]

theorem rank_next_lt {p : Point ι} (h : p.status = .runs) (c : Cache ι) :
    (next c p).2.rank < p.rank := by
  cases p <;> simp only [next] <;> (repeat' split) <;> simp_all [status, rank]

/-- What a reader notes with its next step. -/
def notes : Point ι → List Record
  | counting _ g => [⟨.debug, .cache, s!"rebuilding package cache for generation {g}"⟩]
  | _ => []

/-- What a reader notes at the end of its listing. -/
def listedNotes (g : Nat) : Except Error (List App) → List Record
  | .error e => [⟨.error, .cache, s!"package cache rebuild failed: {e.providerDetail}"⟩]
  | .ok apps =>
    let s := Snapshot.build g apps
    (Snapshot.repeats [] apps).map
        (fun name => ⟨.warn, .cache, s!"inventory listed {name} twice, keeping the first"⟩) ++
      [⟨.debug, .cache,
        s!"package cache rebuilt with {s.apps.size} packages across {s.uidCount} uids"⟩]

end Point

/-- A program that has inventories listed. -/
abbrev Reading (ι : Type) := Dialogue ι fun _ => Listing.Report

namespace Cache
variable {ι : Type} {α : Type}

def new : Cache ι := {}

/-- Bind the inventory that listings come from. Only the first one counts. -/
def start (c : Cache ι) (i : ι) : Reading ι (Cache ι) :=
  match c.bound with
  | none => .done { c with bound := some i }
  | some _ =>
    .note ⟨.warn, .cache, "package cache already started, ignoring new inventory"⟩ (.done c)

def isStarted (c : Cache ι) : Bool := c.bound.isSome

def invalidate (c : Cache ι) : Cache ι := { c with generation := c.generation + 1 }

def invalidateNote (c : Cache ι) : Record :=
  ⟨.debug, .cache, s!"package cache invalidated (generation {c.generation + 1})"⟩

/-- The cache after `n` invalidations in a row. -/
def invalidateBy (c : Cache ι) : Nat → Cache ι
  | 0 => c
  | n + 1 => c.invalidate.invalidateBy n

def invalidateByNotes (c : Cache ι) : Nat → List Record
  | 0 => []
  | n + 1 => c.invalidateNote :: c.invalidate.invalidateByNotes n

/-- The published snapshot, if no invalidation came after its listing began. -/
def fresh? (c : Cache ι) : Option Snapshot := c.published.filter (·.generation = c.generation)

/-- Whether the next reader is answered without a listing. -/
def isValid (c : Cache ι) : Bool := c.fresh?.isSome

/-- Run a reader alone from where it stands to its end. -/
def resume (c : Cache ι) (p : Point ι) : Reading ι (Except Error Snapshot × Cache ι) :=
  match _ : p.status with
  | .over r => .done (r, c)
  | .awaits i g => .ask i fun l =>
      (Dialogue.sayAll (c.invalidateByNotes l.invalidations ++ Point.listedNotes g l.outcome)).bind
        fun _ => (c.invalidateBy l.invalidations).resume (Point.listed g l.outcome)
  | .runs => (Dialogue.sayAll p.notes).bind fun _ => (p.next c).1.resume (p.next c).2
termination_by p.rank
decreasing_by
  · exact Point.rank_listed_lt ‹_› _
  · exact Point.rank_next_lt ‹_› c

/-- The current snapshot, rebuilt first if the cache is not valid. -/
def read (c : Cache ι) : Reading ι (Except Error Snapshot × Cache ι) := c.resume .entered

/-- Where a reader gets to without the rebuild lock. -/
def arrive (c : Cache ι) : Point ι :=
  match c.fresh? with
  | some s => .finished (.ok s)
  | none => .waiting c.completed

/-- Run readers one after another, each from where it stands. -/
def resumeAll (c : Cache ι) : List (Point ι) → Reading ι (List (Except Error Snapshot) × Cache ι)
  | [] => .done ([], c)
  | p :: ps =>
    (c.resume p).bind fun (r, c) => (c.resumeAll ps).bind fun (rs, c) => .done (r :: rs, c)

/-- Run `n` readers that all arrive before the first of them takes the lock. -/
def readTogether (c : Cache ι) (n : Nat) : Reading ι (List (Except Error Snapshot) × Cache ι) :=
  c.resumeAll (List.replicate n c.arrive)

/-- Answer a question from the current snapshot. -/
def answer (c : Cache ι) (f : Snapshot → α) : Reading ι (Except Error α × Cache ι) :=
  c.read.bind fun (r, c) => .done (r.map f, c)

/-- The installed apps of some categories, category by category. -/
def installed (c : Cache ι) (f : Flags) : Reading ι (Except Error (List App) × Cache ι) :=
  c.read.bind fun
    | (.error e, c) => .done (.error e, c)
    | (.ok s, c) =>
      (Dialogue.sayAll (Snapshot.installedNotes f)).bind fun _ => .done (.ok (s.installed f), c)

end Cache

end OpPolicy
