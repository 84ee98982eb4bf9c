import Mathlib.Algebra.BigOperators.Intervals
import OpPolicy.Proofs.Cache.Reference

set_option autoImplicit false

/-!
Readers that have all found the cache stale and take the lock one after another. Each lists for
itself until a listing settles the matter, and all that follow share what it came to
(`Cache.outcome_in_turn`). So the readers that are run together come to as many listings as it
takes and to no more (`Cache.play_readTogether`).
-/

namespace OpPolicy

namespace Listing.Report

/-- The listing failed, or nothing was invalidated while it ran: the readers that come next need
none of their own. -/
def Settles (l : Report) : Prop := (∃ e, l.outcome = .error e) ∨ l.invalidations = 0

/-- The listing came to apps, and nothing was invalidated while it ran. -/
def Renews (l : Report) : Prop := (∃ apps, l.outcome = .ok apps) ∧ l.invalidations = 0

/-- Of the listings that `n` readers may make the one that all the later readers share: the first
that settles the matter, else the last one. -/
structure Decides (O : Nat → Report) (n last : Nat) : Prop where
  lt : last < n
  before : ∀ j < last, ¬ (O j).Settles
  settles : (O last).Settles ∨ last + 1 = n

theorem exists_decides (O : Nat → Report) {n : Nat} (pos : 0 < n) : ∃ last, Decides O n last := by
  classical
  by_cases settled : ∃ j, j < n ∧ (O j).Settles
  · obtain ⟨lt, settles⟩ := Nat.find_spec settled
    refine ⟨Nat.find settled, lt, fun j before settles' => ?_, .inl settles⟩
    exact Nat.find_min settled before ⟨before.trans lt, settles'⟩
  · refine ⟨n - 1, by omega, fun j before settles => settled ⟨j, by omega, settles⟩, .inr ?_⟩
    omega

theorem Decides.unique {O : Nat → Report} {n last last' : Nat} (h : Decides O n last)
    (h' : Decides O n last') : last = last' := by
  have least {k k' : Nat} (hk : Decides O n k) (hk' : Decides O n k') : k ≤ k' := by
    by_contra lt
    rcases hk'.settles with settles | all
    · exact hk.before k' (by omega) settles
    · have := hk.lt
      omega
  exact Nat.le_antisymm (least h h') (least h' h)

end Listing.Report

/-- What listing `i` comes to of some that rebuild a cache one after another, the first of them for
generation `g`. -/
def Listing.answer (O : Nat → Report) (g i : Nat) : Except Error Snapshot :=
  (O i).result (g + ∑ m ∈ Finset.range i, (O m).invalidations)

namespace Cache
variable {ι : Type}

section Outcome
variable (O : Nat → Listing.Report) (c : Cache ι) {p : Point ι} {m : Nat}

/-- What a reader comes to that runs to its end, the cache that it leaves, and the number of
listings by then, of which `m` were made before. They come to what `O` says, one after another. -/
def outcome (p : Point ι) (m : Nat) : Except Error Snapshot × Cache ι × Nat :=
  let q := (c.resume p).play (fun _ m => (O m, m + 1)) m
  (q.value.1, q.value.2, q.world)

theorem outcome_of_done {d : Cache ι} {r : Except Error Snapshot}
    (done : c.resume p = .done (r, d)) : c.outcome O p m = (r, d, m) := by
  rw [outcome, done]
  rfl

/-- A reader's step leaves open what it comes to. -/
theorem outcome_next (runs : p.status = .runs) :
    (p.next c).1.outcome O (p.next c).2 m = c.outcome O p m := by
  simp only [outcome, resume_of_runs c runs, Dialogue.play_bind, Dialogue.play_sayAll]

theorem outcome_listing (i : ι) (g : Nat) :
    c.outcome O (.listing i g) m =
      (c.invalidateBy (O m).invalidations).outcome O (Point.listed g (O m).outcome) (m + 1) := by
  simp only [outcome, resume_listing, Dialogue.play, Dialogue.play_bind, Dialogue.play_sayAll]

variable {c}

theorem resume_waiting (seen : Nat) :
    c.resume (.waiting seen) = { c with held := true }.resume (.locked seen) :=
  resume_of_silent c rfl rfl

theorem outcome_of_fresh {s : Snapshot} (free : c.held = false) (fresh : c.fresh? = some s)
    (seen : Nat) : c.outcome O (.waiting seen) m = (.ok s, c, m) := by
  obtain ⟨published, same⟩ := fresh?_eq_some.mp fresh
  have next : Point.next { c with held := true } (.locked seen) =
      ({ c with held := true }, .recomparing seen s) := by simp [Point.next, published]
  have next' : Point.next { c with held := true } (.recomparing seen s) =
      ({ c with held := true }, .releasing (.ok s)) := by simp [Point.next, same]
  apply outcome_of_done
  rw [resume_waiting, resume_of_silent _ rfl rfl, next, resume_of_silent _ rfl rfl, next',
    resume_releasing, ← free]

theorem resume_waiting_of_stale (stale : c.fresh? = none) (seen : Nat) :
    c.resume (.waiting seen) = { c with held := true }.resume (.recounting seen) :=
  (resume_waiting seen).trans (resume_locked_of_stale { c with held := true } stale seen)

theorem outcome_of_failed {message : String} {seen : Nat} (free : c.held = false)
    (stale : c.fresh? = none) (later : c.completed ≠ seen) (failed : c.lastFailure = some message) :
    c.outcome O (.waiting seen) m = (.error (.provider message), c, m) := by
  have next : Point.next { c with held := true } (.recounting seen) =
      ({ c with held := true }, .releasing (.error (.provider message))) := by
    simp [Point.next, later, failed]
  apply outcome_of_done
  rw [resume_waiting_of_stale stale, resume_of_silent _ rfl rfl, next, resume_releasing, ← free]

theorem outcome_of_bound {i : ι} {seen : Nat} (free : c.held = false) (stale : c.fresh? = none)
    (bound : c.bound = some i) (own : c.completed = seen ∨ c.lastFailure = none) :
    c.outcome O (.waiting seen) m = ((O m).result c.generation, c.rebuilt (O m), m + 1) := by
  have seeks : Point.next { c with held := true } (.recounting seen) =
      ({ c with held := true }, .seeking) := by
    rcases own with rfl | none
    · simp [Point.next]
    · by_cases same : c.completed = seen <;> simp [Point.next, none, same]
  have rebuilds : c.resume (.waiting seen) = c.rebuild i := by
    rw [resume_waiting_of_stale stale, resume_of_silent _ rfl rfl, seeks,
      resume_seeking_of_bound { c with held := true } bound, ← free]
  simp only [outcome, rebuilds, rebuild, Dialogue.play_bind, Dialogue.play_sayAll, Dialogue.play]

end Outcome

/-- The lock is free, and a reader that sampled `seen` and takes it now has to list for itself. -/
structure Pending (c : Cache ι) (seen : Nat) : Prop where
  free : c.held = false
  started : c.isStarted = true
  behind : c.Behind c.generation
  own : c.completed = seen ∨ c.lastFailure = none

section Settling
variable {c : Cache ι} {seen m : Nat} {l : Listing.Report}

theorem rebuilt_of_ok {apps : List App} (listed : l.outcome = .ok apps) :
    (c.rebuilt l).published = some (Snapshot.build c.generation apps) ∧
      (c.rebuilt l).lastFailure = none := by
  simp [Cache.rebuilt, listed]

theorem rebuilt_of_error {e : Error} (failed : l.outcome = .error e) :
    (c.rebuilt l).published = c.published ∧
      (c.rebuilt l).lastFailure = some e.providerDetail := by
  simp [Cache.rebuilt, failed]

theorem behind_rebuilt (behind : c.Behind c.generation) (not : ¬ l.Renews) :
    (c.rebuilt l).Behind (c.rebuilt l).generation := by
  intro s published
  show s.generation < c.generation + l.invalidations
  cases listed : l.outcome with
  | error e =>
    rw [(rebuilt_of_error listed).1] at published
    exact Nat.lt_add_right _ (behind s published)
  | ok apps =>
    have some : l.invalidations ≠ 0 := fun none => not ⟨⟨apps, listed⟩, none⟩
    obtain rfl := Option.some.inj ((rebuilt_of_ok listed).1.symm.trans published)
    rw [Snapshot.generation_build]
    omega

theorem fresh?_rebuilt {apps : List App} (listed : l.outcome = .ok apps)
    (none : l.invalidations = 0) :
    (c.rebuilt l).fresh? = some (Snapshot.build c.generation apps) := by
  refine fresh?_eq_some.mpr ⟨(rebuilt_of_ok listed).1, ?_⟩
  rw [Snapshot.generation_build]
  show c.generation = c.generation + l.invalidations
  omega

theorem isValid_rebuilt_iff (behind : c.Behind c.generation) (l : Listing.Report) :
    (c.rebuilt l).isValid = true ↔ l.Renews := by
  constructor
  · intro valid
    by_contra not
    rw [isValid, fresh?_of_behind (behind_rebuilt behind not)] at valid
    cases valid
  · rintro ⟨⟨apps, listed⟩, none⟩
    rw [isValid, fresh?_rebuilt listed none]
    rfl

/-- An app list that an invalidation came into leaves the next reader where the last one was. -/
theorem Pending.rebuilt (pending : c.Pending seen) (unsettled : ¬ l.Settles) :
    (c.rebuilt l).Pending seen := by
  obtain ⟨succeeded, some⟩ := not_or.mp unsettled
  refine ⟨pending.free, pending.started, ?_, .inr ?_⟩
  · exact behind_rebuilt pending.behind fun renews => some renews.2
  · cases listed : l.outcome with
    | error e => exact absurd ⟨e, listed⟩ succeeded
    | ok apps => exact (rebuilt_of_ok listed).2

theorem Pending.outcome_eq (pending : c.Pending seen) (O : Nat → Listing.Report) (m : Nat) :
    c.outcome O (.waiting seen) m = ((O m).result c.generation, c.rebuilt (O m), m + 1) := by
  obtain ⟨i, bound⟩ := Option.isSome_iff_exists.mp pending.started
  exact outcome_of_bound O pending.free (fresh?_of_behind pending.behind) bound pending.own

/-- Who takes the lock after a listing that settled the matter gets what it came to. -/
theorem outcome_of_settles (free : c.held = false) (behind : c.Behind c.generation)
    (settles : l.Settles) (later : c.completed + 1 ≠ seen) (O : Nat → Listing.Report) (m : Nat) :
    (c.rebuilt l).outcome O (.waiting seen) m = (l.result c.generation, c.rebuilt l, m) := by
  have free : (c.rebuilt l).held = false := free
  cases listed : l.outcome with
  | error e =>
    have stale : (c.rebuilt l).fresh? = none := by
      refine fresh?_of_behind (behind_rebuilt behind ?_)
      rintro ⟨⟨apps, listed'⟩, -⟩
      cases listed.symm.trans listed'
    rw [Listing.Report.result, listed]
    exact outcome_of_failed O free stale later (rebuilt_of_error listed).2
  | ok apps =>
    have none : l.invalidations = 0 := by
      rcases settles with ⟨e, failed⟩ | none
      · cases listed.symm.trans failed
      · exact none
    rw [Listing.Report.result, listed]
    exact outcome_of_fresh O free (fresh?_rebuilt listed none) seen

end Settling

/-- The cache after as many rebuilds, one for each listing in order. -/
def rebuiltBy (c : Cache ι) (O : Nat → Listing.Report) : Nat → Cache ι
  | 0 => c
  | j + 1 => (c.rebuiltBy O j).rebuilt (O j)

section Rebuilds
variable {c : Cache ι} {O : Nat → Listing.Report}

theorem attempts_rebuiltBy (j : Nat) : (c.rebuiltBy O j).attempts = c.attempts + j := by
  induction j with
  | zero => rfl
  | succ j ih => exact congrArg (· + 1) ih

theorem completed_rebuiltBy (j : Nat) : (c.rebuiltBy O j).completed = c.completed + j := by
  induction j with
  | zero => rfl
  | succ j ih => exact congrArg (· + 1) ih

theorem generation_rebuiltBy (j : Nat) :
    (c.rebuiltBy O j).generation = c.generation + ∑ m ∈ Finset.range j, (O m).invalidations := by
  induction j with
  | zero => rfl
  | succ j ih =>
    rw [Finset.sum_range_succ, ← Nat.add_assoc, ← ih]
    rfl

theorem pending_rebuiltBy {seen : Nat} (pending : c.Pending seen) {j : Nat}
    (before : ∀ m < j, ¬ (O m).Settles) : (c.rebuiltBy O j).Pending seen := by
  induction j with
  | zero => exact pending
  | succ j ih =>
    exact (ih fun m lt => before m (lt.trans j.lt_succ_self)).rebuilt (before j j.lt_succ_self)

end Rebuilds

section Queue
variable (c : Cache ι) (O : Nat → Listing.Report)

/-- The cache and the number of listings after `i` readers that took the lock one after another.
They all had sampled the count that `c` has. -/
def queued : Nat → Cache ι × Nat
  | 0 => (c, 0)
  | i + 1 => ((queued i).1.outcome O (.waiting c.completed) (queued i).2).2

/-- What the reader comes to that takes the lock after `i` others, and what it leaves. -/
def inQueue (i : Nat) : Except Error Snapshot × Cache ι × Nat :=
  (c.queued O i).1.outcome O (.waiting c.completed) (c.queued O i).2

theorem play_resumeAll (i n : Nat) :
    let q := ((c.queued O i).1.resumeAll (List.replicate n (.waiting c.completed))).play
      (fun _ m => (O m, m + 1)) (c.queued O i).2
    q.value.1 = (List.range' i n).map (fun j => (c.inQueue O j).1) ∧
      (q.value.2, q.world) = c.queued O (i + n) := by
  induction n generalizing i with
  | zero => exact ⟨rfl, rfl⟩
  | succ n ih =>
    obtain ⟨results, ends⟩ := ih (i + 1)
    simp only [List.replicate_succ, resumeAll, Dialogue.play_bind, Dialogue.play]
    rw [List.range'_succ, List.map_cons, ← results, Nat.add_comm n 1, ← Nat.add_assoc, ← ends]
    exact ⟨rfl, rfl⟩

variable {c O} {n last : Nat} (pending : c.Pending c.completed)
  (decides : Listing.Report.Decides O n last)

include pending decides

theorem outcome_in_turn {i : Nat} (lt : i < n) :
    (c.rebuiltBy O (min i (last + 1))).outcome O (.waiting c.completed) (min i (last + 1)) =
      ((O (min i last)).result (c.rebuiltBy O (min i last)).generation,
        c.rebuiltBy O (min (i + 1) (last + 1)), min (i + 1) (last + 1)) := by
  rcases Nat.lt_or_ge last i with after | upTo
  · -- the listing that decides is over, and more than that might be made
    have settles : (O last).Settles := by
      rcases decides.settles with settles | all
      · exact settles
      · omega
    have own : (c.rebuiltBy O last).Pending c.completed := pending_rebuiltBy pending decides.before
    have later : (c.rebuiltBy O last).completed + 1 ≠ c.completed := by
      rw [completed_rebuiltBy]
      omega
    rw [Nat.min_eq_right (Nat.succ_le_of_lt after), Nat.min_eq_right after.le,
      Nat.min_eq_right (by omega)]
    exact outcome_of_settles own.free own.behind settles later O _
  · have own : (c.rebuiltBy O i).Pending c.completed :=
      pending_rebuiltBy pending fun m before => decides.before m (before.trans_le upTo)
    rw [Nat.min_eq_left (Nat.le_succ_of_le upTo), Nat.min_eq_left upTo,
      Nat.min_eq_left (Nat.succ_le_succ upTo)]
    exact own.outcome_eq O i

theorem queued_eq {i : Nat} (le : i ≤ n) :
    c.queued O i = (c.rebuiltBy O (min i (last + 1)), min i (last + 1)) := by
  induction i with
  | zero => rfl
  | succ i ih => rw [queued, ih (Nat.le_of_succ_le le), outcome_in_turn pending decides le]

/-- As long as no listing has settled the matter every reader gets what its own came to, and then
all get the same. -/
theorem inQueue_eq {i : Nat} (lt : i < n) :
    (c.inQueue O i).1 = Listing.answer O c.generation (min i last) := by
  rw [inQueue, queued_eq pending decides lt.le, outcome_in_turn pending decides lt,
    generation_rebuiltBy, Listing.answer]

/-- What becomes of `n` readers that arrive together and run one after another. -/
theorem play_readTogether :
    let q := (c.readTogether n).play (fun _ m => (O m, m + 1)) 0
    q.value.1 = (List.range n).map (fun i => Listing.answer O c.generation (min i last)) ∧
      q.value.2 = c.rebuiltBy O (last + 1) ∧ q.world = last + 1 := by
  have arrive : c.arrive = .waiting c.completed := by
    rw [arrive, fresh?_of_behind pending.behind]
  obtain ⟨results, ends⟩ := c.play_resumeAll O 0 n
  have all : min n (last + 1) = last + 1 := Nat.min_eq_right (Nat.succ_le_of_lt decides.lt)
  rw [Nat.zero_add, queued_eq pending decides le_rfl, all, Prod.mk.injEq] at ends
  rw [readTogether, arrive]
  refine ⟨results.trans ?_, ends⟩
  rw [← List.range_eq_range']
  exact List.map_congr_left fun i mem => inQueue_eq pending decides (List.mem_range.mp mem)

end Queue

end Cache

end OpPolicy
