import OpPolicy.Proofs.Cache.Alone
import OpPolicy.Proofs.Cache.Freshness
import OpPolicy.Proofs.Dialogue

set_option autoImplicit false

/-!
The cache as its users see it, one at a time. The reference machine has no counters: it is invalid,
or valid with a listing. Whatever is asked of the cache and whatever inventories answer, the cache
does what that machine does (`Cache.refines_reference`).
-/

namespace OpPolicy

/-- A question about the installed packages. -/
inductive Query where
  | namesForUid (uid : Uid)
  | uidFor (name : String)
  | installed (f : Flags)
  | app (name : String)
  | apps
  | whitelist
  | isWhitelisted (name : String)

namespace Query

def Reply : Query → Type
  | namesForUid _ => Option (List String)
  | uidFor _ => Option Uid
  | installed _ => List App
  | app _ => Option App
  | apps => List App
  | whitelist => List String
  | isWhitelisted _ => Bool

def reply (s : Snapshot) : (q : Query) → q.Reply
  | namesForUid uid => s.namesForUid? uid
  | uidFor name => s.uidFor? name
  | installed f => s.installed f
  | app name => s.app? name
  | apps => s.apps.toList
  | whitelist => s.whitelist
  | isWhitelisted name => s.isWhitelisted name

/-- Replies do not depend on the generation that a snapshot was built for. -/
theorem reply_build (q : Query) (g g' : Nat) (apps : List App) :
    q.reply (Snapshot.build g apps) = q.reply (Snapshot.build g' apps) := by
  rw [Snapshot.build_eq_stamped g g' apps]
  cases q <;> rfl

end Query

inductive Command (ι : Type) where
  | start (i : ι)
  | invalidate
  | isValid
  | query (q : Query)

def Command.Result {ι : Type} : Command ι → Type
  | start _ | invalidate => Unit
  | isValid => Bool
  | query q => Except Error q.Reply

/-- A command with its result and what is to be seen after it. -/
structure Entry (ι : Type) where
  command : Command ι
  result : command.Result
  valid : Bool
  listings : Nat

/-- How to tell something to do commands, and what it shows: whether it is valid, and how many
listings it asked for. -/
structure Interface (ι σ : Type) where
  perform : σ → (command : Command ι) → Reading ι (command.Result × σ)
  valid : σ → Bool
  listings : σ → Nat

namespace Interface
variable {ι σ τ : Type}

/-- Do one command after another. -/
def transcript (m : Interface ι σ) (s : σ) : List (Command ι) → Reading ι (List (Entry ι))
  | [] => .done []
  | command :: commands =>
    (m.perform s command).bind fun (result, s) =>
      (m.transcript s commands).bind fun entries =>
        .done (⟨command, result, m.valid s, m.listings s⟩ :: entries)

/-- States that stay related command after command have the same transcripts. -/
theorem follows_transcript {m : Interface ι σ} {n : Interface ι τ} {R : σ → τ → Prop}
    (valid : ∀ s t, R s t → m.valid s = n.valid t)
    (listings : ∀ s t, R s t → m.listings s = n.listings t)
    (step : ∀ s t, R s t → ∀ command, Dialogue.Follows (fun x y => x.1 = y.1 ∧ R x.2 y.2)
      (m.perform s command) (n.perform t command))
    (commands : List (Command ι)) {s : σ} {t : τ} (h : R s t) :
    Dialogue.Follows (· = ·) (m.transcript s commands) (n.transcript t commands) := by
  induction commands generalizing s t with
  | nil => exact .done rfl
  | cons command commands ih =>
    refine (step s t h command).bind ?_
    rintro ⟨result, s⟩ ⟨_, t⟩ ⟨rfl, h⟩
    refine (ih h).bind ?_
    rintro entries _ rfl
    rw [valid s t h, listings s t h]
    exact .done rfl

end Interface

structure Reference (ι : Type) where
  bound : Option ι := none
  /-- The listing that the machine is valid with. -/
  valid : Option (List App) := none
  listings : Nat := 0

namespace Reference
variable {ι : Type}

/-- A listing that fails, or that an invalidation comes into, leaves the machine invalid. -/
def rebuilt (m : Reference ι) (l : Listing.Report) : Reference ι :=
  { m with
    valid := if l.invalidations = 0 then l.outcome.toOption else none
    listings := m.listings + 1 }

def read (m : Reference ι) : Reading ι (Except Error (List App) × Reference ι) :=
  match m.valid, m.bound with
  | some apps, _ => .done (.ok apps, m)
  | none, none => .done (.error Point.unbound, m)
  | none, some i => .ask i fun l => .done (l.outcome.mapError Error.intoProvider, m.rebuilt l)

def perform (m : Reference ι) : (command : Command ι) → Reading ι (command.Result × Reference ι)
  | .start i => .done ((), { m with bound := m.bound.or (some i) })
  | .invalidate => .done ((), { m with valid := none })
  | .isValid => .done (m.valid.isSome, m)
  | .query q =>
    m.read.bind fun (r, m) => .done (r.map fun apps => q.reply (Snapshot.build 0 apps), m)

def interface : Interface ι (Reference ι) := ⟨perform, fun m => m.valid.isSome, listings⟩

end Reference

namespace Cache
variable {ι : Type}

def query (c : Cache ι) : (q : Query) → Reading ι (Except Error q.Reply × Cache ι)
  | .namesForUid uid => c.answer (·.namesForUid? uid)
  | .uidFor name => c.answer (·.uidFor? name)
  | .installed f => c.installed f
  | .app name => c.answer (·.app? name)
  | .apps => c.answer (·.apps.toList)
  | .whitelist => c.answer (·.whitelist)
  | .isWhitelisted name => c.answer (·.isWhitelisted name)

def perform (c : Cache ι) : (command : Command ι) → Reading ι (command.Result × Cache ι)
  | .start i => (c.start i).bind fun c => .done ((), c)
  | .invalidate => .note c.invalidateNote (.done ((), c.invalidate))
  | .isValid => .done (c.isValid, c)
  | .query q => c.query q

def interface : Interface ι (Cache ι) := ⟨perform, isValid, attempts⟩

/-- The cache stands for the machine: no reader is about, and the published snapshot is fresh
exactly if the machine is valid, and then it is of the machine's listing. -/
structure Implements (c : Cache ι) (m : Reference ι) : Prop where
  free : c.held = false
  bound : c.bound = m.bound
  bounded : c.Behind (c.generation + 1)
  fresh : c.fresh? = m.valid.map (Snapshot.build c.generation)
  listings : c.attempts = m.listings

theorem fresh?_of_behind {c : Cache ι} (h : c.Behind c.generation) : c.fresh? = none := by
  apply fresh?_eq_none.mpr
  intro s published
  exact (h s published).ne

/-- A snapshot that is not fresh is of an earlier generation. -/
theorem behind_of_stale {c : Cache ι} (stale : c.fresh? = none)
    (bounded : c.Behind (c.generation + 1)) : c.Behind c.generation := by
  intro s published
  have older := fresh?_eq_none.mp stale s published
  have bound := bounded s published
  omega

namespace Implements
variable {c : Cache ι} {m : Reference ι}

theorem new : (Cache.new : Cache ι).Implements {} where
  free := rfl
  bound := rfl
  bounded _ published := by cases published
  fresh := rfl
  listings := rfl

theorem offer (h : c.Implements m) (i : ι) :
    (c.offer i).Implements { m with bound := m.bound.or (some i) } where
  free := h.free
  bound := congrArg (·.or (some i)) h.bound
  bounded := h.bounded
  fresh := h.fresh
  listings := h.listings

theorem invalidate (h : c.Implements m) : c.invalidate.Implements { m with valid := none } where
  free := h.free
  bound := h.bound
  bounded s published := (h.bounded s published).trans c.invalidate.generation.lt_succ_self
  fresh := fresh?_of_behind h.bounded
  listings := h.listings

theorem valid (h : c.Implements m) : c.isValid = m.valid.isSome := by
  rw [isValid, h.fresh, Option.isSome_map]

theorem rebuilt (h : c.Implements m) (stale : m.valid = none) (l : Listing.Report) :
    (c.rebuilt l).Implements (m.rebuilt l) := by
  have behind : c.Behind c.generation := behind_of_stale (by rw [h.fresh, stale]; rfl) h.bounded
  obtain ⟨outcome, invalidations⟩ := l
  refine ⟨h.free, h.bound, ?_, ?_, congrArg (· + 1) h.listings⟩
  · intro s published
    cases outcome with
    | error e =>
      have older := behind s published
      simp only [Cache.rebuilt]
      omega
    | ok apps =>
      obtain rfl := Option.some.inj published
      simp only [Cache.rebuilt, Snapshot.generation_build]
      omega
  · cases outcome with
    | error e =>
      have later : (c.rebuilt ⟨.error e, invalidations⟩).fresh? = none := by
        apply fresh?_of_behind
        intro s published
        exact Nat.lt_add_right invalidations (behind s published)
      rw [later, Reference.rebuilt]
      split <;> rfl
    | ok apps =>
      by_cases quiet : invalidations = 0
      · simp [Cache.rebuilt, Reference.rebuilt, fresh?, quiet, Except.toOption, Option.filter]
      · simp [Cache.rebuilt, Reference.rebuilt, fresh?, quiet, Option.filter]

end Implements

theorem follows_start {c : Cache ι} {m : Reference ι} (h : c.Implements m) (i : ι) :
    Dialogue.Follows Implements (c.start i)
      (.done { m with bound := m.bound.or (some i) } : Reading ι (Reference ι)) := by
  have offered := h.offer i
  unfold start
  cases bound : c.bound with
  | none =>
    rw [Cache.offer, bound] at offered
    exact .done offered
  | some j =>
    rw [offer_of_bound bound] at offered
    exact .note (.done offered)

theorem follows_read {c : Cache ι} {m : Reference ι} (h : c.Implements m) :
    Dialogue.Follows (fun x y => (∃ g, x.1 = y.1.map (Snapshot.build g)) ∧ x.2.Implements y.2)
      c.read m.read := by
  have fresh := h.fresh
  cases valid : m.valid with
  | some apps =>
    rw [valid] at fresh
    rw [read_of_fresh fresh, Reference.read, valid]
    exact .done ⟨⟨c.generation, rfl⟩, h⟩
  | none =>
    rw [valid] at fresh
    cases bound : m.bound with
    | none =>
      rw [read_of_unbound h.free fresh (h.bound.trans bound), Reference.read, valid, bound]
      exact .done ⟨⟨0, rfl⟩, h⟩
    | some i =>
      rw [read_of_bound h.free fresh (h.bound.trans bound), Reference.read, valid, bound, rebuild]
      refine .sayAll_bind _ (.ask fun l => .sayAll_bind _ (.done ⟨⟨c.generation, ?_⟩, ?_⟩))
      · cases outcome : l.outcome with
        | error e => simp [Listing.Report.result, outcome, Except.mapError, Except.map,
            Error.intoProvider_eq]
        | ok apps => simp [Listing.Report.result, outcome, Except.mapError, Except.map]
      · exact h.rebuilt valid l

theorem follows_query {c : Cache ι} {m : Reference ι} (h : c.Implements m) (q : Query) :
    Dialogue.Follows (fun x y => x.1 = y.1 ∧ x.2.Implements y.2)
      (c.query q) (m.perform (.query q)) := by
  have same (g : Nat) (r : Except Error (List App)) :
      (r.map (Snapshot.build g)).map (q.reply ·) =
        r.map fun apps => q.reply (Snapshot.build 0 apps) := by
    cases r with
    | error e => rfl
    | ok apps => exact congrArg Except.ok (q.reply_build g 0 apps)
  cases q with
  | installed f =>
    refine (follows_read h).bind ?_
    rintro ⟨_, c⟩ ⟨r, m⟩ ⟨⟨g, rfl⟩, h⟩
    have same := same g r
    cases r with
    | error e => exact .done ⟨same, h⟩
    | ok apps => exact .sayAll_bind _ (.done ⟨same, h⟩)
  | _ =>
    refine (follows_read h).bind ?_
    rintro ⟨_, c⟩ ⟨r, m⟩ ⟨⟨g, rfl⟩, h⟩
    exact .done ⟨same g r, h⟩

theorem follows_perform {c : Cache ι} {m : Reference ι} (h : c.Implements m)
    (command : Command ι) : Dialogue.Follows (fun x y => x.1 = y.1 ∧ x.2.Implements y.2)
      (c.perform command) (m.perform command) := by
  cases command with
  | start i => exact (follows_start h i).bind fun _ _ h => .done ⟨rfl, h⟩
  | invalidate => exact .note (.done ⟨rfl, h.invalidate⟩)
  | isValid => exact .done ⟨h.valid, h⟩
  | query q => exact follows_query h q

/-- Whatever is asked of a new cache, whatever inventories answer, and however often the cache is
invalidated while they list: all results are those of the reference machine, and so are the
inventories that are asked. -/
theorem refines_reference {σ : Type} (commands : List (Command ι))
    (answer : ι → σ → Listing.Report × σ) (w : σ) :
    let p := (interface.transcript .new commands).play answer w
    let q := (Reference.interface.transcript {} commands).play answer w
    p.value = q.value ∧ p.world = q.world ∧ p.asked = q.asked := by
  have follows : Dialogue.Follows (· = ·) (interface.transcript .new commands)
      (Reference.interface.transcript {} commands) :=
    Interface.follows_transcript (R := Implements) (fun _ _ h => h.valid) (fun _ _ h => h.listings)
      (fun _ _ h => follows_perform h) commands .new
  exact follows.play answer w

end Cache

end OpPolicy
